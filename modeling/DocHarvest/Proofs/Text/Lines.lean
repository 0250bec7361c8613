import DocHarvest.Text.Bytes
import DocHarvest.Proofs.Text.Trim
import Mathlib.Data.List.Basic

/-!
# Lines and offsets

`splitOn` and `join` are inverse to each other on pieces without the separator (`splitOn_join`,
with `join_splitOn` for the other direction), and where two texts meet, two of their lines become
one (`joinLines_append`). `byteSlice?` has a result between any two character boundaries in order
(`byteSlice?_of_le`).
-/

namespace DocHarvest.Text

/-! ## Cutting and joining -/

theorem not_mem_of_mem_splitOn {sep : Char} {t piece : Text} (h : piece ∈ splitOn sep t) :
    sep ∉ piece := by
  induction t generalizing piece with
  | nil => simp_all [splitOn]
  | cons c t ih =>
    unfold splitOn at h
    split at h
    · rcases List.mem_cons.1 h with rfl | h
      · exact List.not_mem_nil
      · exact ih h
    · next hc =>
      split at h
      · next hs => exact absurd hs (splitOn_ne_nil sep t)
      · next first pieces hs =>
        rw [hs] at ih
        rcases List.mem_cons.1 h with rfl | h
        · have := ih List.mem_cons_self
          simp only [List.mem_cons, not_or]
          exact ⟨Ne.symm hc, this⟩
        · exact ih (List.mem_cons_of_mem _ h)

theorem mem_of_mem_splitOn {sep : Char} {t piece : Text} (h : piece ∈ splitOn sep t) {c : Char}
    (hc : c ∈ piece) : c ∈ t := by
  induction t generalizing piece with
  | nil => simp_all [splitOn]
  | cons d t ih =>
    unfold splitOn at h
    split at h
    · rcases List.mem_cons.1 h with rfl | h
      · exact absurd hc List.not_mem_nil
      · exact List.mem_cons_of_mem _ (ih h hc)
    · split at h
      · next hs => exact absurd hs (splitOn_ne_nil sep t)
      · next first pieces hs =>
        rw [hs] at ih
        rcases List.mem_cons.1 h with rfl | h
        · rcases List.mem_cons.1 hc with rfl | hc
          · exact List.mem_cons_self
          · exact List.mem_cons_of_mem _ (ih List.mem_cons_self hc)
        · exact List.mem_cons_of_mem _ (ih (List.mem_cons_of_mem _ h) hc)

theorem splitOn_of_not_mem {sep : Char} {t : Text} (h : sep ∉ t) : splitOn sep t = [t] := by
  induction t with
  | nil => rfl
  | cons c t ih =>
    simp only [List.mem_cons, not_or] at h
    simp [splitOn, Ne.symm h.1, ih h.2]

theorem splitOn_append_cons {sep : Char} {t : Text} (h : sep ∉ t) (rest : Text) :
    splitOn sep (t ++ sep :: rest) = t :: splitOn sep rest := by
  induction t with
  | nil => simp [splitOn]
  | cons c t ih =>
    simp only [List.mem_cons, not_or] at h
    simp [splitOn, Ne.symm h.1, ih h.2]

/-- A separator parts the pieces before it from those behind it. -/
theorem splitOn_append (sep : Char) (a b : Text) :
    splitOn sep (a ++ sep :: b) = splitOn sep a ++ splitOn sep b := by
  induction a with
  | nil => simp [splitOn]
  | cons c a ih =>
    rw [List.cons_append, splitOn, splitOn, ih]
    split
    · rfl
    · cases h : splitOn sep a with
      | nil => exact absurd h (splitOn_ne_nil sep a)
      | cons first pieces => rfl

/-- Text without the separator goes before the first piece. -/
theorem splitOn_append_left {sep : Char} {lead : Text} (h : sep ∉ lead) {t first : Text}
    {rest : List Text} (e : splitOn sep t = first :: rest) :
    splitOn sep (lead ++ t) = (lead ++ first) :: rest := by
  induction lead with
  | nil => exact e
  | cons c lead ih =>
    simp only [List.mem_cons, not_or] at h
    simp [splitOn, Ne.symm h.1, ih h.2]

theorem splitOn_join {sep : Char} {ls : List Text} (ne : ls ≠ []) (h : ∀ l ∈ ls, sep ∉ l) :
    splitOn sep (join sep ls) = ls := by
  induction ls with
  | nil => exact absurd rfl ne
  | cons l ls ih =>
    cases ls with
    | nil => exact splitOn_of_not_mem (h l List.mem_cons_self)
    | cons next ls =>
      rw [join, splitOn_append_cons (h l List.mem_cons_self),
        ih (List.cons_ne_nil _ _) fun x hx => h x (List.mem_cons_of_mem _ hx)]

theorem splitOnce_append_cons {sep : Char} {a : Text} (h : sep ∉ a) (b : Text) :
    splitOnce sep (a ++ sep :: b) = some (a, b) := by
  induction a with
  | nil => simp [splitOnce]
  | cons c a ih =>
    simp only [List.mem_cons, not_or] at h
    simp [splitOnce, Ne.symm h.1, ih h.2]

theorem splitOnce_of_not_mem {sep : Char} {t : Text} (h : sep ∉ t) : splitOnce sep t = none := by
  induction t with
  | nil => rfl
  | cons c t ih =>
    simp only [List.mem_cons, not_or] at h
    simp [splitOnce, Ne.symm h.1, ih h.2]

/-- The parts of a text around its first separator. -/
theorem eq_append_of_splitOnce {sep : Char} {t a b : Text} (h : splitOnce sep t = some (a, b)) :
    t = a ++ sep :: b := by
  induction t generalizing a with
  | nil => exact absurd h nofun
  | cons c t ih =>
    rw [splitOnce] at h
    split at h
    · next same =>
      obtain ⟨rfl, rfl⟩ := Prod.mk.inj (Option.some.inj h)
      rw [same, List.nil_append]
    · obtain ⟨⟨a, b⟩, parts, e⟩ := Option.map_eq_some_iff.1 h
      obtain ⟨rfl, rfl⟩ := Prod.mk.inj e
      rw [ih parts, List.cons_append]

/-- The first separator of two texts is that of the first one, if it has one. -/
theorem splitOnce_append (sep : Char) (a b : Text) : splitOnce sep (a ++ b) =
    ((splitOnce sep a).map fun (x, y) => (x, y ++ b)).or
      ((splitOnce sep b).map fun (x, y) => (a ++ x, y)) := by
  induction a with
  | nil => simp [splitOnce]
  | cons c a ih =>
    rw [List.cons_append, splitOnce, splitOnce]
    split
    · rfl
    · rw [ih]
      cases splitOnce sep a with
      | none => cases splitOnce sep b <;> rfl
      | some parts => rfl

/-! ## Lines -/

theorem splitLines_ne_nil (t : Text) : splitLines t ≠ [] := splitOn_ne_nil '\n' t

/-- The last line apart. -/
theorem exists_splitLines_eq_concat (t : Text) : ∃ ls last, splitLines t = ls ++ [last] :=
  ⟨_, _, (List.dropLast_concat_getLast (splitLines_ne_nil t)).symm⟩

theorem joinLines_splitLines (t : Text) : joinLines (splitLines t) = t := join_splitOn '\n' t

theorem not_mem_of_mem_splitLines {t line : Text} (h : line ∈ splitLines t) : '\n' ∉ line :=
  not_mem_of_mem_splitOn h

theorem splitLines_joinLines {ls : List Text} (ne : ls ≠ []) (h : ∀ l ∈ ls, '\n' ∉ l) :
    splitLines (joinLines ls) = ls := splitOn_join ne h

/-- The last line of one text and the first of the next become one. -/
theorem joinLines_append (as : List Text) (a b : Text) (bs : List Text) :
    joinLines (as ++ [a]) ++ joinLines (b :: bs) = joinLines (as ++ (a ++ b) :: bs) := by
  induction as with
  | nil => cases bs <;> simp [joinLines, join]
  | cons c as ih =>
    cases as with
    | nil => cases bs <;> simp_all [joinLines, join]
    | cons d as => simp_all [joinLines, join]

/-- Where two texts meet, the last line of the one goes on with the first of the other. -/
theorem exists_splitLines_append (a b : Text) : ∃ as x y bs, splitLines a = as ++ [x] ∧
    splitLines b = y :: bs ∧ splitLines (a ++ b) = as ++ (x ++ y) :: bs := by
  obtain ⟨as, x, ea⟩ := exists_splitLines_eq_concat a
  obtain ⟨y, bs, eb⟩ := List.exists_cons_of_ne_nil (splitLines_ne_nil b)
  refine ⟨as, x, y, bs, ea, eb, ?_⟩
  have single : ∀ l ∈ as ++ (x ++ y) :: bs, '\n' ∉ l := by
    have ha : ∀ l ∈ as ++ [x], '\n' ∉ l := fun l hl => not_mem_of_mem_splitLines (t := a) (ea ▸ hl)
    have hb : ∀ l ∈ y :: bs, '\n' ∉ l := fun l hl => not_mem_of_mem_splitLines (t := b) (eb ▸ hl)
    simp only [List.mem_append, List.mem_cons, List.not_mem_nil, or_false] at ha hb ⊢
    rintro l (hl | rfl | hl)
    · exact ha l (.inl hl)
    · exact fun mem => (List.mem_append.1 mem).elim (ha x (.inr rfl)) (hb y (.inl rfl))
    · exact hb l (.inr hl)
  rw [← joinLines_splitLines a, ← joinLines_splitLines b, ea, eb, joinLines_append,
    splitLines_joinLines (by simp) single]

/-- A text as the join of its lines, the last of them apart. -/
theorem exists_joinLines_concat (t : Text) :
    ∃ as a, t = joinLines (as ++ [a]) ∧ ∀ l ∈ as ++ [a], '\n' ∉ l := by
  refine ⟨(splitLines t).dropLast, (splitLines t).getLast (splitLines_ne_nil t), ?_, ?_⟩
  · rw [List.dropLast_concat_getLast, joinLines_splitLines]
  · rw [List.dropLast_concat_getLast]
    exact fun l hl => not_mem_of_mem_splitLines hl

/-- A text as the join of its lines, the first of them apart. -/
theorem exists_joinLines_cons (t : Text) :
    ∃ a as, t = joinLines (a :: as) ∧ ∀ l ∈ a :: as, '\n' ∉ l := by
  cases h : splitLines t with
  | nil => exact absurd h (splitLines_ne_nil t)
  | cons a as =>
    exact ⟨a, as, by rw [← h, joinLines_splitLines],
      fun l hl => not_mem_of_mem_splitLines (t := t) (by rwa [h])⟩

/-! ## The ends of joined lines -/

theorem head?_joinLines {first : Text} (ne : first ≠ []) (rest : List Text) :
    (joinLines (first :: rest)).head? = first.head? := by
  obtain ⟨c, first, rfl⟩ := List.exists_cons_of_ne_nil ne
  cases rest <;> rfl

theorem getLast?_joinLines {last : Text} (ne : last ≠ []) (ls : List Text) :
    (joinLines (ls ++ [last])).getLast? = last.getLast? := by
  have parted := joinLines_append ls [] last []
  rw [List.nil_append] at parted
  rw [← parted]
  exact List.getLast?_append_of_ne_nil _ ne

/-- A line in front counts for the trimmed text unless it is blank. -/
theorem trim_joinLines_cons_eq_iff {l : Text} {ls : List Text} :
    trim (joinLines (l :: ls)) = trim (joinLines ls) ↔ IsBlank l := by
  constructor
  · intro same
    have count := congrArg (List.countP (!isBlank ·)) same
    rw [countP_trim, countP_trim] at count
    have none : l.countP (!isBlank ·) = 0 := by
      cases ls with
      | nil => exact count
      | cons next ls =>
        rw [joinLines, join, List.countP_append, List.countP_cons_of_neg (by decide)] at count
        exact Nat.add_eq_right.1 count
    intro c hc
    simpa using List.countP_eq_zero.1 none c hc
  · intro blank
    cases ls with
    | nil => exact trim_eq_nil_iff.2 blank
    | cons next ls =>
      have newline : IsBlank (l ++ ['\n']) := by
        intro c hc
        rcases List.mem_append.1 hc with hc | hc
        · exact blank c hc
        · obtain rfl := List.mem_singleton.1 hc
          decide
      have parted : joinLines (l :: next :: ls) = l ++ ['\n'] ++ joinLines (next :: ls) := by
        simp [joinLines, join]
      rw [parted, trim_append_left newline]

/-- Trimmed lines of which the first and the last are not empty. -/
theorem isTrimmed_joinLines {ls : List Text} (ne : ls ≠ []) (trimmed : ∀ l ∈ ls, IsTrimmed l)
    (first : ∀ l ∈ ls.head?, l ≠ []) (last : ∀ l ∈ ls.getLast?, l ≠ []) :
    IsTrimmed (joinLines ls) := by
  constructor
  · obtain ⟨l, rest, rfl⟩ := List.exists_cons_of_ne_nil ne
    rw [head?_joinLines (first l rfl)]
    exact (trimmed l List.mem_cons_self).head
  · have full := last (ls.getLast ne) (List.getLast?_eq_some_getLast ne)
    rw [← List.dropLast_concat_getLast ne, getLast?_joinLines full]
    exact (trimmed _ (List.getLast_mem ne)).last

/-! ## Offsets -/

/-- Between two character boundaries in order there is a slice. -/
theorem byteSlice?_of_le {t lead upTo : Text} {start stop : Nat} (h : byteTake? t start = some lead)
    (h' : byteTake? t stop = some upTo) (le : start ≤ stop) :
    ∃ piece rest, t = lead ++ piece ++ rest ∧ upTo = lead ++ piece ∧
      byteSlice? t start stop = some piece := by
  obtain ⟨rest, rfl, rfl⟩ := byteTake?_eq_some.1 h
  obtain ⟨rest', e, rfl⟩ := byteTake?_eq_some.1 h'
  rcases List.append_eq_append_iff.1 e with ⟨piece, rfl, rfl⟩ | ⟨extra, rfl, -⟩
  · exact ⟨piece, rest', by simp, rfl, byteSlice?_eq_some.2 ⟨lead, rest', by simp, rfl, rfl⟩⟩
  · -- the longer boundary text would be shorter in bytes
    have empty : extra = [] := by
      cases extra with
      | nil => rfl
      | cons c extra =>
        have := Char.utf8Size_pos c
        simp only [byteLength_append, byteLength] at le
        omega
    subst empty
    exact ⟨[], rest, by simp, by simp, byteSlice?_eq_some.2 ⟨upTo, rest, by simp, by simp, by simp⟩⟩

end DocHarvest.Text
