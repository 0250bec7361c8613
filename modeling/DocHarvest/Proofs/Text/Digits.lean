import DocHarvest.Text.Digits

/-!
# Numbers in base ten

`decimal n` has digits only, has no leading zero (`length_decimal_of_head?_eq_zero`), and tells
numbers apart (`decimal_inj`).
-/

namespace DocHarvest.Text

theorem decimal_ne_nil (n : Nat) : decimal n ≠ [] := Nat.toDigits_ne_nil

theorem isDigit_of_mem_decimal {n : Nat} {c : Char} (h : c ∈ decimal n) : c.isDigit = true :=
  Nat.isDigit_of_mem_toDigits (by decide) (by decide) h

theorem not_mem_decimal {c : Char} (h : c.isDigit = false) (n : Nat) : c ∉ decimal n := by
  intro mem
  rw [isDigit_of_mem_decimal mem] at h
  exact absurd h nofun

theorem decimal_inj {a b : Nat} (h : decimal a = decimal b) : a = b := by
  rw [← decimalValue_decimal a, h, decimalValue_decimal]

/-- A number that begins with a zero is zero. -/
theorem length_decimal_of_head?_eq_zero {n : Nat} (h : (decimal n).head? = some '0') :
    (decimal n).length = 1 := by
  unfold decimal at *
  induction n using Nat.strongRecOn with
  | ind n ih =>
    by_cases small : n < 10
    · rw [Nat.toDigits_of_lt_base small]
      rfl
    · have low : 10 ≤ n := Nat.le_of_not_lt small
      rw [Nat.toDigits_of_base_le (by decide) low] at h
      have head : (Nat.toDigits 10 (n / 10)).head? = some '0' := by
        rwa [List.head?_append, Option.or_of_isSome (by simp [Nat.toDigits_ne_nil])] at h
      have one := ih (n / 10) (by omega) head
      have digit : n / 10 < 10 := by
        have := (Nat.length_toDigits_le_iff (by decide) Nat.one_pos).1 (Nat.le_of_eq one)
        rwa [Nat.pow_one] at this
      rw [Nat.toDigits_of_lt_base digit] at head
      have zero : ∀ k < 10, [k.digitChar].head? = some '0' → k = 0 := by decide
      have := zero _ digit head
      omega

end DocHarvest.Text
