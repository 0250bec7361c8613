import DocHarvest.Proofs.Text.Utf8
import Mathlib.Data.List.Lex

/-!
# The order of texts

`isAtMost` compares texts by the numbers of their characters and puts any two of them in order
(`isAtMost_total`, `isAtMost_trans`). It is the order of their bytes (`isBefore_of_isAtMost`): the
first byte in which the forms of two characters differ is the lower one for the lower character.
-/

namespace DocHarvest.Text

variable {a b : Text} {c d : Char}

theorem isAtMost_total (a b : Text) : (isAtMost a b || isAtMost b a) = true := by
  induction a generalizing b with
  | nil => rfl
  | cons c a ih =>
    cases b with
    | nil => rfl
    | cons d b =>
      rw [isAtMost, isAtMost]
      by_cases same : c = d
      · rw [if_pos same, if_pos same.symm]
        exact ih b
      · have ne : c.toNat ≠ d.toNat := fun e => same (Char.toNat_inj.1 e)
        rw [if_neg same, if_neg (Ne.symm same), Bool.or_eq_true, decide_eq_true_eq,
          decide_eq_true_eq]
        omega

theorem isAtMost_trans (a b c : Text) (h : isAtMost a b = true) (h' : isAtMost b c = true) :
    isAtMost a c = true := by
  induction a generalizing b c with
  | nil => rfl
  | cons x a ih =>
    cases b with
    | nil => cases h
    | cons y b =>
      cases c with
      | nil => cases h'
      | cons z c =>
        rw [isAtMost] at h h' ⊢
        by_cases xy : x = y
        · subst xy
          rw [if_pos rfl] at h
          split at h'
          · next xz => rw [if_pos xz, ih b c h h']
          · next xz => rw [if_neg xz, h']
        · rw [if_neg xy, decide_eq_true_eq] at h
          split at h'
          · next yz => rw [← yz, if_neg xy, decide_eq_true h]
          · rw [decide_eq_true_eq] at h'
            have lt := Nat.lt_trans h h'
            have xz : x ≠ z := fun same => absurd lt (same ▸ Nat.lt_irrefl x.toNat)
            rw [if_neg xz, decide_eq_true lt]

/-! ## Bytes -/

/-- Whether a byte is lower than another one. -/
def ByteLt (x y : UInt8) : Prop := x.toNat < y.toNat

/-- Whether a text comes before another one by the first byte in which they differ, or is the
beginning of it. -/
def IsBefore (a b : Text) : Prop := List.Lex ByteLt a.toBytes b.toBytes

instance : Std.Asymm ByteLt := ⟨fun _ _ => Nat.lt_asymm⟩

instance : Std.Asymm IsBefore := ⟨fun a b => Std.Asymm.asymm (r := List.Lex ByteLt) a.toBytes b.toBytes⟩

theorem lex_ofNat {m n : Nat} {x y : Bytes} (lt : n < 256) (le : m ≤ n)
    (tail : m = n → List.Lex ByteLt x y) : List.Lex ByteLt (.ofNat m :: x) (.ofNat n :: y) := by
  by_cases same : m = n
  · rw [same]
    exact .cons (tail same)
  · refine .rel ?_
    have lower : m < 256 := Nat.lt_of_le_of_lt le lt
    rw [ByteLt, UInt8.toNat_ofNat_of_lt' lower, UInt8.toNat_ofNat_of_lt' lt]
    omega

theorem lex_ofNat_of_lt {m n : Nat} {x y : Bytes} (lt : n < 256) (h : m < n) :
    List.Lex ByteLt (.ofNat m :: x) (.ofNat n :: y) :=
  lex_ofNat lt (Nat.le_of_lt h) fun same => absurd same (Nat.ne_of_lt h)

/-- The bytes of a lower character come first, whatever stands behind. More bytes begin with a higher
one; among forms of one length the digits are compared one by one. -/
theorem lex_utf8EncodeChar (h : c.toNat < d.toNat) (x y : Bytes) :
    List.Lex ByteLt (String.utf8EncodeChar c ++ x) (String.utf8EncodeChar d ++ y) := by
  have bound : d.val.toNat < 1114112 := d.valid.elim (Nat.lt_trans · (by decide)) And.right
  change c.val.toNat < d.val.toNat at h
  unfold String.utf8EncodeChar
  dsimp only
  generalize c.val.toNat = v at h ⊢
  generalize d.val.toNat = w at h bound ⊢
  split
  · split
    · exact lex_ofNat_of_lt (by omega) h
    · split
      · exact lex_ofNat_of_lt (by omega) (by omega)
      · split <;> exact lex_ofNat_of_lt (by omega) (by omega)
  · rw [if_neg (by omega : ¬w ≤ 127)]
    split
    · split
      · exact lex_ofNat (by omega) (by omega) fun _ => lex_ofNat_of_lt (by omega) (by omega)
      · split <;> exact lex_ofNat_of_lt (by omega) (by omega)
    · rw [if_neg (by omega : ¬w ≤ 2047)]
      split
      · split
        · exact lex_ofNat (by omega) (by omega) fun _ => lex_ofNat (by omega) (by omega) fun _ =>
            lex_ofNat_of_lt (by omega) (by omega)
        · exact lex_ofNat_of_lt (by omega) (by omega)
      · rw [if_neg (by omega : ¬w ≤ 65535)]
        exact lex_ofNat (by omega) (by omega) fun _ => lex_ofNat (by omega) (by omega) fun _ =>
          lex_ofNat (by omega) (by omega) fun _ => lex_ofNat_of_lt (by omega) (by omega)

/-- The order of texts is that of their bytes. -/
theorem isBefore_of_isAtMost (h : isAtMost a b = true) (ne : a ≠ b) : IsBefore a b := by
  induction a generalizing b with
  | nil =>
    obtain ⟨d, b, rfl⟩ := List.exists_cons_of_ne_nil (Ne.symm ne)
    obtain ⟨first, rest, e⟩ := List.exists_cons_of_ne_nil (String.utf8EncodeChar_ne_nil (c := d))
    rw [IsBefore, toBytes_cons, e]
    exact .nil
  | cons c a ih =>
    cases b with
    | nil => cases h
    | cons d b =>
      rw [isAtMost] at h
      rw [IsBefore, toBytes_cons, toBytes_cons]
      split at h
      · next same =>
        subst same
        exact (ih h fun e => ne (congrArg _ e)).append_left _ _
      · exact lex_utf8EncodeChar (of_decide_eq_true h) _ _

end DocHarvest.Text
