import DocHarvest.Text.Replacement
import Mathlib.Data.List.Infix

/-!
# What a replacement leaves alone

A replacement leaves a text as it is in which it finds nothing (`Replacement.Misses.apply_eq`), and if
it only makes texts shorter, no other text keeps its length (`Replacement.Shrinks.misses_of_length`).
If all that it looks for begins with one character, then text without that character stays
(`Replacement.OpensWith.apply_append`).
-/

namespace DocHarvest.Text.Replacement

variable {r : Replacement} {t new rest : Text} {opener : Char}

/-- Nothing is found anywhere in the text. -/
def Misses (r : Replacement) (t : Text) : Prop := ∀ s, s <:+ t → r.find? s = none

instance (r : Replacement) (t : Text) : Decidable (r.Misses t) :=
  decidable_of_iff (∀ s ∈ t.tails, r.find? s = none) (by simp only [List.mem_tails, Misses])

/-- All that is found begins with the character `opener`. -/
def OpensWith (r : Replacement) (opener : Char) : Prop :=
  ∀ {t new rest}, r.find? t = some (new, rest) → t.head? = some opener

/-- What is put in is shorter than what was found. -/
def Shrinks (r : Replacement) : Prop :=
  ∀ {t new rest}, r.find? t = some (new, rest) → new.length + rest.length < t.length

theorem apply_nil (r : Replacement) : r.apply [] = [] := by
  rw [apply]

theorem apply_of_find? (h : r.find? t = some (new, rest)) : r.apply t = new ++ r.apply rest := by
  fun_cases r.apply t with
  | case1 => exact absurd (r.shortens h) (Nat.not_lt_zero _)
  | case2 c t new' rest' found =>
    obtain ⟨rfl, rfl⟩ := Prod.mk.inj (Option.some.inj (h.symm.trans found))
    rfl
  | case3 c t none => exact absurd (h.symm.trans none) nofun

theorem apply_cons (c : Char) (h : r.find? (c :: t) = none) : r.apply (c :: t) = c :: r.apply t := by
  generalize e : c :: t = u at h
  fun_cases r.apply u with
  | case1 => cases e
  | case2 d t' new rest found => exact absurd (found.symm.trans h) nofun
  | case3 d t' none =>
    obtain ⟨rfl, rfl⟩ := List.cons.inj e
    rfl

/-! ## Texts that stay as they are -/

theorem Misses.tail {c : Char} (h : r.Misses (c :: t)) : r.Misses t :=
  fun s hs => h s (hs.trans (List.suffix_cons c t))

theorem Misses.apply_eq (h : r.Misses t) : r.apply t = t := by
  induction t with
  | nil => exact r.apply_nil
  | cons c t ih => rw [apply_cons c (h _ (List.suffix_refl _)), ih h.tail]

theorem Shrinks.length_apply_le (h : r.Shrinks) (t : Text) : (r.apply t).length ≤ t.length := by
  fun_induction r.apply t with
  | case1 => exact Nat.le_refl _
  | case2 c t new rest found ih =>
    have := h found
    rw [List.length_append]
    omega
  | case3 c t none ih => simpa using ih

/-- Where something is found, the text becomes shorter. -/
theorem Shrinks.misses_of_length (h : r.Shrinks) (same : (r.apply t).length = t.length) :
    r.Misses t := by
  induction t with
  | nil =>
    intro s hs
    rw [List.suffix_nil.1 hs]
    cases found : r.find? [] with
    | none => rfl
    | some parts => exact absurd (r.shortens found) (Nat.not_lt_zero _)
  | cons c t ih =>
    cases found : r.find? (c :: t) with
    | some parts =>
      have shorter := h found
      have := h.length_apply_le parts.2
      rw [apply_of_find? found, List.length_append] at same
      omega
    | none =>
      rw [apply_cons c found, List.length_cons, List.length_cons, Nat.add_right_cancel_iff] at same
      intro s hs
      rcases List.suffix_cons_iff.1 hs with rfl | hs
      · exact found
      · exact ih same s hs

/-! ## What is replaced in a part of a text -/

theorem OpensWith.find?_eq_none (h : r.OpensWith opener) (ne : t.head? ≠ some opener) :
    r.find? t = none := by
  cases found : r.find? t with
  | none => rfl
  | some parts => exact absurd (h found) ne

/-- Text without the opening character stays in front of what follows. -/
theorem OpensWith.apply_append (h : r.OpensWith opener) {lead : Text} (free : opener ∉ lead)
    (t : Text) : r.apply (lead ++ t) = lead ++ r.apply t := by
  induction lead with
  | nil => rfl
  | cons c lead ih =>
    rw [List.mem_cons, not_or] at free
    have none : r.find? (c :: (lead ++ t)) = none :=
      h.find?_eq_none fun e => free.1 (Option.some.inj e).symm
    rw [List.cons_append, apply_cons c none, ih free.2, List.cons_append]

theorem OpensWith.apply_eq (h : r.OpensWith opener) (free : opener ∉ t) : r.apply t = t := by
  simpa [apply_nil] using h.apply_append free []

/-- Text behind another one stays apart if it takes no part in what is found there. -/
theorem apply_append {tail : Text} (h : ∀ t, r.find? (t ++ tail) =
    (r.find? t).map fun found => (found.1, found.2 ++ tail)) (t : Text) :
    r.apply (t ++ tail) = r.apply t ++ r.apply tail := by
  fun_induction r.apply t with
  | case1 => rfl
  | case2 c t new rest found ih =>
    have found' := h (c :: t)
    rw [found] at found'
    rw [apply_of_find? found', ih, List.append_assoc]
  | case3 c t none ih =>
    have none' : r.find? (c :: (t ++ tail)) = Option.none := (h (c :: t)).trans (by rw [none]; rfl)
    rw [List.cons_append, apply_cons c none', ih, List.cons_append]

/-- What holds of all characters of a text and of those that are put in holds of the result. -/
theorem forall_mem_apply {P : Char → Prop}
    (keep : ∀ {t new rest}, r.find? t = some (new, rest) → (∀ c ∈ t, P c) →
      (∀ c ∈ new, P c) ∧ ∀ c ∈ rest, P c)
    (h : ∀ c ∈ t, P c) : ∀ c ∈ r.apply t, P c := by
  fun_induction r.apply t with
  | case1 => exact nofun
  | case2 c t new rest found ih =>
    obtain ⟨put, left⟩ := keep found h
    exact List.forall_mem_append.2 ⟨put, ih left⟩
  | case3 c t none ih =>
    obtain ⟨first, others⟩ := List.forall_mem_cons.1 h
    exact List.forall_mem_cons.2 ⟨first, ih others⟩

end DocHarvest.Text.Replacement
