import DocHarvest.Text.Bytes

/-!
# The bytes of a text

Bytes are read back as the text they come from (`ofBytes?_toBytes`), and only a line feed has the
byte of a line feed (`mem_utf8EncodeChar`), so that the lines of a text are those of its bytes.
-/

namespace DocHarvest.Text

theorem toBytes_append (a b : Text) : toBytes (a ++ b) = toBytes a ++ toBytes b :=
  List.flatMap_append

theorem toBytes_cons (c : Char) (t : Text) : toBytes (c :: t) = String.utf8EncodeChar c ++ toBytes t :=
  List.flatMap_cons

theorem length_toBytes (t : Text) : (toBytes t).length = byteLength t := by
  induction t with
  | nil => rfl
  | cons c t ih =>
    rw [toBytes_cons, List.length_append, String.length_utf8EncodeChar, ih, byteLength]

theorem ofBytes?_toBytes (t : Text) : ofBytes? (toBytes t) = some t := by
  have form : ByteArray.mk (toBytes t).toArray = t.utf8Encode := by
    apply ByteArray.ext
    simp [List.utf8Encode, toBytes]
  rw [ofBytes?, form, List.utf8Decode?_utf8Encode, Option.map_some]

/-! ## Line feeds -/

theorem utf8EncodeChar_newline : String.utf8EncodeChar '\n' = [10] := by decide

theorem newline_ne_ofNat {n : Nat} (high : 128 ≤ n) (lt : n < 256) : (10 : UInt8) ≠ .ofNat n := by
  intro h
  have value := congrArg UInt8.toNat h
  rw [UInt8.toNat_ofNat_of_lt' lt] at value
  exact absurd (show 10 = n from value) (by omega)

/-- A character of one byte has its number as that byte; the bytes of others are 128 at least. -/
theorem mem_utf8EncodeChar {c : Char} : (10 : UInt8) ∈ String.utf8EncodeChar c ↔ c = '\n' := by
  constructor
  · intro h
    unfold String.utf8EncodeChar at h
    simp only at h
    split at h
    · next ascii =>
      have value := congrArg UInt8.toNat (List.mem_singleton.1 h)
      rw [UInt8.toNat_ofNat_of_lt' (by change c.val.toNat < 256; omega)] at value
      exact Char.ext (UInt32.toNat_inj.1 value.symm)
    · exfalso
      split at h
      · simp only [List.mem_cons, List.not_mem_nil, or_false] at h
        rcases h with h | h <;> exact newline_ne_ofNat (by omega) (by omega) h
      · split at h
        · simp only [List.mem_cons, List.not_mem_nil, or_false] at h
          rcases h with h | h | h <;> exact newline_ne_ofNat (by omega) (by omega) h
        · simp only [List.mem_cons, List.not_mem_nil, or_false] at h
          rcases h with h | h | h | h <;> exact newline_ne_ofNat (by omega) (by omega) h
  · rintro rfl
    decide

theorem mem_toBytes {t : Text} : (10 : UInt8) ∈ toBytes t ↔ '\n' ∈ t := by
  simp [toBytes, mem_utf8EncodeChar]

/-- A text has as many line feeds as its bytes. -/
theorem count_toBytes (t : Text) : (toBytes t).count 10 = t.count '\n' := by
  induction t with
  | nil => rfl
  | cons c t ih =>
    rw [toBytes_cons, List.count_append, ih, List.count_cons]
    by_cases h : c = '\n'
    · subst h
      rw [utf8EncodeChar_newline]
      simp [Nat.add_comm]
    · rw [List.count_eq_zero.2 (fun mem => h (mem_utf8EncodeChar.1 mem))]
      simp [h]

end DocHarvest.Text
