import DocHarvest.Text.Basic

/-!
# Texts as bytes

The UTF-8 form of a text, the text that a sequence of bytes stands for, and slices of a text by byte
offsets. An offset inside the bytes of one character cuts nothing: the slice does not exist.

* `byteCut_append`, `byteCut_cases` : an offset cuts a text behind a leading part of that length
* `byteSlice?_eq_some` : a slice is what stands between a leading and a trailing part of the text
-/

namespace DocHarvest

abbrev Bytes := List UInt8

namespace Text

def byteLength : Text → Nat
  | [] => 0
  | c :: t => c.utf8Size + byteLength t

@[simp] theorem byteLength_append (a b : Text) :
    byteLength (a ++ b) = byteLength a + byteLength b := by
  induction a with
  | nil => simp [byteLength]
  | cons c a ih => simp [byteLength, ih, Nat.add_assoc]

/-- The text without its first `n` bytes, if a character ends there. -/
def byteDrop? : Text → Nat → Option Text
  | t, 0 => some t
  | [], _ + 1 => none
  | c :: t, n + 1 => if c.utf8Size ≤ n + 1 then byteDrop? t (n + 1 - c.utf8Size) else none

/-- The first `n` bytes of the text, if a character ends there. -/
def byteTake? : Text → Nat → Option Text
  | _, 0 => some []
  | [], _ + 1 => none
  | c :: t, n + 1 =>
    if c.utf8Size ≤ n + 1 then (byteTake? t (n + 1 - c.utf8Size)).map (c :: ·) else none

/-- The text from byte `start` to byte `stop`, if both lie between characters and in that order. -/
def byteSlice? (t : Text) (start stop : Nat) : Option Text :=
  if start ≤ stop then (byteDrop? t start).bind (byteTake? · (stop - start)) else none

/-- Behind the bytes of a leading part a text is cut into that part and the rest. -/
theorem byteCut_append (lead rest : Text) :
    byteTake? (lead ++ rest) (byteLength lead) = some lead ∧
      byteDrop? (lead ++ rest) (byteLength lead) = some rest := by
  induction lead with
  | nil => simp [byteLength, byteTake?, byteDrop?]
  | cons c lead ih =>
    have pos : 0 < byteLength (c :: lead) := Nat.add_pos_left (Char.utf8Size_pos c) _
    obtain ⟨n, size⟩ := Nat.exists_eq_add_one.2 pos
    have inside : c.utf8Size ≤ n + 1 := by simp only [byteLength] at size; omega
    have behind : n + 1 - c.utf8Size = byteLength lead := by simp only [byteLength] at size; omega
    rw [size, List.cons_append, byteTake?, byteDrop?, if_pos inside, if_pos inside, behind]
    exact ⟨by rw [ih.1, Option.map_some], ih.2⟩

/-- An offset is the length of a leading part, or cuts nothing. -/
theorem byteCut_cases (t : Text) (n : Nat) :
    (∃ lead rest, t = lead ++ rest ∧ byteLength lead = n) ∨
      byteTake? t n = none ∧ byteDrop? t n = none := by
  induction t generalizing n with
  | nil =>
    cases n with
    | zero => exact .inl ⟨[], [], rfl, rfl⟩
    | succ n => exact .inr ⟨rfl, rfl⟩
  | cons c t ih =>
    cases n with
    | zero => exact .inl ⟨[], c :: t, rfl, rfl⟩
    | succ n =>
      rw [byteTake?, byteDrop?]
      split
      · next inside =>
        rcases ih (n + 1 - c.utf8Size) with ⟨lead, rest, rfl, size⟩ | ⟨take, drop⟩
        · exact .inl ⟨c :: lead, rest, rfl, by simp only [byteLength]; omega⟩
        · exact .inr ⟨by rw [take, Option.map_none], drop⟩
      · exact .inr ⟨rfl, rfl⟩

theorem byteDrop?_eq_some {t rest : Text} {n : Nat} :
    byteDrop? t n = some rest ↔ ∃ lead, t = lead ++ rest ∧ byteLength lead = n := by
  constructor
  · intro h
    rcases byteCut_cases t n with ⟨lead, rest', rfl, rfl⟩ | ⟨-, none⟩
    · obtain rfl := Option.some.inj ((byteCut_append lead rest').2.symm.trans h)
      exact ⟨lead, rfl, rfl⟩
    · exact absurd (none.symm.trans h) nofun
  · rintro ⟨lead, rfl, rfl⟩
    exact (byteCut_append lead rest).2

theorem byteTake?_eq_some {t lead : Text} {n : Nat} :
    byteTake? t n = some lead ↔ ∃ rest, t = lead ++ rest ∧ byteLength lead = n := by
  constructor
  · intro h
    rcases byteCut_cases t n with ⟨lead', rest, rfl, rfl⟩ | ⟨none, -⟩
    · obtain rfl := Option.some.inj ((byteCut_append lead' rest).1.symm.trans h)
      exact ⟨rest, rfl, rfl⟩
    · exact absurd (none.symm.trans h) nofun
  · rintro ⟨rest, rfl, rfl⟩
    exact (byteCut_append lead rest).1

/-- A slice is what stands between a leading part as long as its start and the rest of the text. -/
theorem byteSlice?_eq_some {t piece : Text} {start stop : Nat} :
    byteSlice? t start stop = some piece ↔
      ∃ lead rest, t = lead ++ piece ++ rest ∧ byteLength lead = start ∧
        byteLength (lead ++ piece) = stop := by
  unfold byteSlice?
  split
  · next le =>
    rw [Option.bind_eq_some_iff]
    constructor
    · rintro ⟨r, hd, ht⟩
      obtain ⟨lead, rfl, hl⟩ := byteDrop?_eq_some.1 hd
      obtain ⟨rest, rfl, hp⟩ := byteTake?_eq_some.1 ht
      exact ⟨lead, rest, by simp, hl, by simp [hl, hp]; omega⟩
    · rintro ⟨lead, rest, rfl, hl, hs⟩
      refine ⟨piece ++ rest, byteDrop?_eq_some.2 ⟨lead, by simp, hl⟩,
        byteTake?_eq_some.2 ⟨rest, rfl, ?_⟩⟩
      simp only [byteLength_append] at hs
      omega
  · next gt =>
    simp only [reduceCtorEq, false_iff, not_exists, not_and]
    rintro lead rest - hl hs
    simp only [byteLength_append] at hs
    omega

/-! ## UTF-8 -/

def toBytes (t : Text) : Bytes := t.flatMap String.utf8EncodeChar

/-- The text that the bytes stand for, if they are the bytes of a text. -/
def ofBytes? (bytes : Bytes) : Option Text :=
  (ByteArray.mk bytes.toArray).utf8Decode?.map Array.toList

end Text

end DocHarvest
