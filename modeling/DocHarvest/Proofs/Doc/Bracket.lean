import DocHarvest.Doc.Bracket
import DocHarvest.Text.Bytes
import Mathlib.Data.List.Infix

/-!
# Balanced brackets

`takeToClosing?` reads exactly the texts whose brackets match: a balanced text with a closing bracket
behind it is read up to that bracket (`IsBalanced.takeToClosing?_append`), and what is read is
balanced and stands before a closing bracket (`isBalanced_of_takeToClosing?`,
`takeToClosing?_eq_some`).

* `takeBracketed?_iff_isBracketed` : what is read off the front of a text that begins with a bracket,
  when nothing is, and that cutting the text at the offsets of the brackets gives the same
-/

namespace DocHarvest.Doc

open Text

variable {opening closing : Char} {depth : Nat} {t : Text}

/-- With `depth` brackets open before it, a text closes all of them and all that it opens, and none
that is not open. -/
structure IsBalanced (opening closing : Char) (depth : Nat) (t : Text) : Prop where
  sane : ∀ lead ∈ t.inits, lead.count closing ≤ lead.count opening + depth
  settled : t.count closing = t.count opening + depth

instance (opening closing : Char) (depth : Nat) (t : Text) :
    Decidable (IsBalanced opening closing depth t) :=
  decidable_of_iff ((∀ lead ∈ t.inits, lead.count closing ≤ lead.count opening + depth) ∧
    t.count closing = t.count opening + depth) ⟨fun h => ⟨h.1, h.2⟩, fun h => ⟨h.sane, h.settled⟩⟩

namespace IsBalanced

theorem nil : IsBalanced opening closing 0 [] := ⟨by simp, by simp⟩

/-- One character further, the brackets that are open are one more, one fewer or the same. -/
theorem tail {c : Char} {depth' : Nat} (h : IsBalanced opening closing depth (c :: t))
    (step : [c].count opening + depth = [c].count closing + depth') :
    IsBalanced opening closing depth' t := by
  have parts : ∀ (x : Char) (l : Text), (c :: l).count x = [c].count x + l.count x := fun x l => by
    rw [← List.count_append, List.singleton_append]
  constructor
  · intro lead hl
    have := h.sane (c :: lead) (by simp [hl])
    rw [parts opening, parts closing] at this
    omega
  · have := h.settled
    rw [parts opening, parts closing] at this
    omega

theorem of_tail {c : Char} {depth' : Nat} (h : IsBalanced opening closing depth' t)
    (step : [c].count opening + depth = [c].count closing + depth') :
    IsBalanced opening closing depth (c :: t) := by
  have parts : ∀ (x : Char) (l : Text), (c :: l).count x = [c].count x + l.count x := fun x l => by
    rw [← List.count_append, List.singleton_append]
  constructor
  · intro lead hl
    rw [List.inits_cons, List.mem_cons, List.mem_map] at hl
    rcases hl with rfl | ⟨lead, hl, rfl⟩
    · simp
    · have := h.sane lead hl
      rw [parts opening, parts closing]
      omega
  · have := h.settled
    rw [parts opening, parts closing]
    omega

theorem cons {c : Char} (h : IsBalanced opening closing depth t) (no : c ≠ opening)
    (nc : c ≠ closing) : IsBalanced opening closing depth (c :: t) :=
  h.of_tail (by simp [no, nc])

/-- Text without brackets before a balanced text changes nothing. -/
theorem append_left {lead : Text} (h : IsBalanced opening closing depth t)
    (free : ∀ c ∈ lead, c ≠ opening ∧ c ≠ closing) :
    IsBalanced opening closing depth (lead ++ t) := by
  induction lead with
  | nil => exact h
  | cons c lead ih =>
    obtain ⟨no, nc⟩ := free c List.mem_cons_self
    exact (ih fun x hx => free x (List.mem_cons_of_mem _ hx)).cons no nc

theorem takeToClosing?_append (h : IsBalanced opening closing depth t) (ne : opening ≠ closing)
    (rest : Text) :
    takeToClosing? opening closing (depth + 1) (t ++ closing :: rest) = some (t, rest) := by
  induction t generalizing depth with
  | nil =>
    obtain rfl : depth = 0 := by simpa using h.settled.symm
    simp [takeToClosing?, Ne.symm ne]
  | cons c t ih =>
    rw [List.cons_append, takeToClosing?]
    split
    · next e =>
      subst e
      rw [ih (h.tail (by simp [ne]; omega))]
      rfl
    · next no =>
      split
      · next e =>
        subst e
        have inside : 1 ≤ depth := by
          simpa [List.count_singleton, no] using h.sane [c] (by simp)
        obtain ⟨depth, rfl⟩ : ∃ d, depth = d + 1 := ⟨depth - 1, by omega⟩
        rw [if_neg (by omega), Nat.add_sub_cancel,
          ih (h.tail (by simp [no]; omega))]
        rfl
      · next nc =>
        rw [ih (h.tail (by simp [no, nc]))]
        rfl

/-- A text that closes brackets opened before it is balanced up to the first bracket that closes one
of them. -/
theorem exists_closing (h : IsBalanced opening closing (depth + 1) t) (ne : opening ≠ closing) :
    ∃ inner rest, t = inner ++ closing :: rest ∧ IsBalanced opening closing depth inner := by
  induction t generalizing depth with
  | nil => exact absurd h.settled (by simp)
  | cons c t ih =>
    by_cases no : c = opening
    · subst no
      have more : IsBalanced c closing (depth + 1 + 1) t := h.tail (by simp [ne]; omega)
      obtain ⟨inner, rest, rfl, inside⟩ := ih more
      exact ⟨c :: inner, rest, rfl, inside.of_tail (by simp [ne]; omega)⟩
    · by_cases nc : c = closing
      · subst nc
        cases depth with
        | zero => exact ⟨[], t, rfl, nil⟩
        | succ depth =>
          have fewer : IsBalanced opening c (depth + 1) t := h.tail (by simp [no]; omega)
          obtain ⟨inner, rest, rfl, inside⟩ := ih fewer
          exact ⟨c :: inner, rest, rfl, inside.of_tail (by simp [no]; omega)⟩
      · have same : IsBalanced opening closing (depth + 1) t := h.tail (by simp [no, nc])
        obtain ⟨inner, rest, rfl, inside⟩ := ih same
        exact ⟨c :: inner, rest, rfl, inside.cons no nc⟩

/-- A closing bracket behind a balanced text closes one more. -/
theorem concat_closing (h : IsBalanced opening closing depth t) (ne : opening ≠ closing) :
    IsBalanced opening closing (depth + 1) (t ++ [closing]) := by
  have settled := h.settled
  constructor
  · intro lead hl
    rw [List.mem_inits, List.prefix_concat_iff] at hl
    rcases hl with rfl | hl
    · simp [Ne.symm ne]
      omega
    · have := h.sane lead ((List.mem_inits _ _).2 hl)
      omega
  · simp [Ne.symm ne]
    omega

end IsBalanced

/-- What is read stands before a closing bracket, and what follows that is left. -/
theorem takeToClosing?_eq_some {inner rest : Text}
    (h : takeToClosing? opening closing depth t = some (inner, rest)) :
    t = inner ++ closing :: rest := by
  induction t generalizing depth inner with
  | nil => exact absurd h nofun
  | cons c t ih =>
    have step : ∀ {d}, (takeToClosing? opening closing d t).map (fun parts =>
        (c :: parts.1, parts.2)) = some (inner, rest) → c :: t = inner ++ closing :: rest := by
      intro d h
      obtain ⟨⟨inner, _⟩, read, e⟩ := Option.map_eq_some_iff.1 h
      obtain ⟨rfl, rfl⟩ := Prod.mk.inj e
      rw [ih read, List.cons_append]
    unfold takeToClosing? at h
    split at h
    · exact step h
    · split at h
      · next e =>
        split at h
        · obtain ⟨rfl, rfl⟩ := Prod.mk.inj (Option.some.inj h)
          rw [e, List.nil_append]
        · exact step h
      · exact step h

theorem isBalanced_of_takeToClosing? {inner rest : Text} (ne : opening ≠ closing)
    (h : takeToClosing? opening closing (depth + 1) t = some (inner, rest)) :
    IsBalanced opening closing depth inner := by
  induction t generalizing depth inner with
  | nil => exact absurd h nofun
  | cons c t ih =>
    -- one character further, with the brackets that are open there
    have step : ∀ d, [c].count opening + depth = [c].count closing + d →
        (takeToClosing? opening closing (d + 1) t).map (fun parts => (c :: parts.1, parts.2)) =
          some (inner, rest) → IsBalanced opening closing depth inner := by
      intro d same h
      obtain ⟨⟨inner, _⟩, read, e⟩ := Option.map_eq_some_iff.1 h
      obtain ⟨rfl, rfl⟩ := Prod.mk.inj e
      exact (ih read).of_tail same
    unfold takeToClosing? at h
    split at h
    · next no =>
      subst no
      exact step (depth + 1) (by simp [ne]; omega) h
    · next no =>
      split at h
      · next nc =>
        subst nc
        cases depth with
        | zero =>
          obtain ⟨rfl, -⟩ := Prod.mk.inj (Option.some.inj h)
          exact .nil
        | succ depth => exact step depth (by simp [no]; omega) (by simpa using h)
      · next nc => exact step depth (by simp [no, nc]) h

theorem length_lt_of_takeBracketed? {opening closing : Char} {inner rest : Text}
    (h : takeBracketed? opening closing t = some (inner, rest)) : rest.length < t.length := by
  cases t with
  | nil => cases h
  | cons c t =>
    simp only [takeBracketed?] at h
    split at h
    · have := congrArg List.length (takeToClosing?_eq_some h)
      simp only [List.length_append, List.length_cons] at this ⊢
      omega
    · cases h

/-! ## Bracketed expressions -/

/-- The text begins with a balanced text between brackets; `rest` follows it. -/
structure IsBracketed (opening closing : Char) (t inner rest : Text) : Prop where
  eq : t = opening :: inner ++ closing :: rest
  balanced : IsBalanced opening closing 0 inner

/-- The byte offset of the bracket that closes the outermost of `depth` open ones, in a text that
begins at `offset`. A closing bracket where none is open ends the search. -/
def closingOffset? (opening closing : Char) (depth offset : Nat) : Text → Option Nat
  | [] => none
  | c :: t =>
    if c = opening then closingOffset? opening closing (depth + 1) (offset + c.utf8Size) t
    else if c = closing then
      if depth = 0 then none
      else if depth = 1 then some offset
      else closingOffset? opening closing (depth - 1) (offset + c.utf8Size) t
    else closingOffset? opening closing depth (offset + c.utf8Size) t

theorem takeBracketed?_eq_some_iff {inner rest : Text} (ne : opening ≠ closing) :
    takeBracketed? opening closing t = some (inner, rest) ↔
      IsBracketed opening closing t inner rest := by
  constructor
  · intro h
    cases t with
    | nil => exact absurd h nofun
    | cons c t =>
      rw [takeBracketed?] at h
      split at h
      · next e =>
        exact ⟨by rw [e, takeToClosing?_eq_some h]; rfl, isBalanced_of_takeToClosing? ne h⟩
      · exact absurd h nofun
  · rintro ⟨rfl, balanced⟩
    rw [List.cons_append, takeBracketed?, if_pos rfl]
    exact balanced.takeToClosing?_append ne rest

theorem takeBracketed?_eq_none_iff (ne : opening ≠ closing) :
    takeBracketed? opening closing (opening :: t) = none ↔
      ∀ lead, lead <+: opening :: t → IsBalanced opening closing 0 lead → lead = [] := by
  constructor
  · intro none lead part balanced
    cases lead with
    | nil => rfl
    | cons c lead =>
      obtain ⟨rfl, more, rfl⟩ := List.cons_prefix_cons.1 part
      have opened : IsBalanced c closing (0 + 1) lead := balanced.tail (by simp [ne])
      obtain ⟨inner, rest, rfl, inside⟩ := opened.exists_closing ne
      have found : IsBracketed c closing (c :: (inner ++ closing :: rest ++ more)) inner
          (rest ++ more) := ⟨by simp, inside⟩
      exact absurd (none.symm.trans ((takeBracketed?_eq_some_iff ne).2 found)) nofun
  · intro only
    by_contra some
    obtain ⟨⟨inner, rest⟩, found⟩ := Option.ne_none_iff_exists'.1 some
    obtain ⟨eq, balanced⟩ := (takeBracketed?_eq_some_iff ne).1 found
    have whole : IsBalanced opening closing 0 (opening :: (inner ++ [closing])) :=
      (balanced.concat_closing ne).of_tail (by simp [ne])
    exact absurd (only _ ⟨rest, by simp [eq]⟩ whole) nofun

/-! ## Offsets of brackets -/

theorem closingOffset?_eq (opening closing : Char) (depth offset : Nat) (t : Text) :
    closingOffset? opening closing (depth + 1) offset t =
      (takeToClosing? opening closing (depth + 1) t).map fun parts =>
        offset + byteLength parts.1 := by
  induction t generalizing depth offset with
  | nil => rfl
  | cons c t ih =>
    -- the offset behind a character that is read
    have step : ∀ d, closingOffset? opening closing (d + 1) (offset + c.utf8Size) t =
        ((takeToClosing? opening closing (d + 1) t).map fun parts => (c :: parts.1, parts.2)).map
          fun parts => offset + byteLength parts.1 := fun d => by
      rw [ih, Option.map_map]
      refine congrArg (Option.map · _) (funext fun parts => ?_)
      rw [Function.comp_apply, byteLength, Nat.add_assoc]
    rw [closingOffset?, takeToClosing?]
    split
    · exact step _
    · split
      · cases depth with
        | zero => simp [byteLength]
        | succ depth => simpa using step depth
      · exact step _

/-- The text is cut where characters end. -/
theorem cut_at_closingOffset? (opening closing : Char) (t : Text) :
    ((closingOffset? opening closing 0 0 (opening :: t)).map fun i =>
        (byteSlice? (opening :: t) opening.utf8Size i,
          byteDrop? (opening :: t) (i + closing.utf8Size))) =
      (takeBracketed? opening closing (opening :: t)).map fun parts =>
        (some parts.1, some parts.2) := by
  rw [closingOffset?, if_pos rfl, closingOffset?_eq, takeBracketed?, if_pos rfl, Option.map_map]
  cases read : takeToClosing? opening closing 1 t with
  | none => rfl
  | some parts =>
    obtain ⟨inner, rest⟩ := parts
    have eq := takeToClosing?_eq_some read
    have cut : byteSlice? (opening :: t) opening.utf8Size
        (0 + opening.utf8Size + byteLength inner) = some inner :=
      byteSlice?_eq_some.2 ⟨[opening], closing :: rest, by simp [eq], by simp [byteLength],
        by simp [byteLength]⟩
    have left : byteDrop? (opening :: t)
        (0 + opening.utf8Size + byteLength inner + closing.utf8Size) = some rest :=
      byteDrop?_eq_some.2 ⟨opening :: inner ++ [closing], by simp [eq],
        by simp [byteLength, Nat.add_assoc]⟩
    rw [Option.map_some, Option.map_some, Function.comp_apply, cut, left]

/-- Off the front of a text that begins with an opening bracket, a balanced text between brackets is
read, and there is only one; nothing is read if no part of the text in front is balanced. The same
is read by cutting the text at the offsets of the brackets, whatever their lengths in bytes. -/
theorem takeBracketed?_iff_isBracketed (ne : opening ≠ closing) (t : Text) :
    (∀ inner rest, takeBracketed? opening closing (opening :: t) = some (inner, rest) ↔
      IsBracketed opening closing (opening :: t) inner rest) ∧
    (∀ inner rest inner' rest', IsBracketed opening closing (opening :: t) inner rest →
      IsBracketed opening closing (opening :: t) inner' rest' → inner = inner' ∧ rest = rest') ∧
    (takeBracketed? opening closing (opening :: t) = none ↔
      ∀ lead, lead <+: opening :: t → IsBalanced opening closing 0 lead → lead = []) ∧
    ((closingOffset? opening closing 0 0 (opening :: t)).map fun i =>
        (byteSlice? (opening :: t) opening.utf8Size i,
          byteDrop? (opening :: t) (i + closing.utf8Size))) =
      (takeBracketed? opening closing (opening :: t)).map fun parts =>
        (some parts.1, some parts.2) := by
  refine ⟨fun _ _ => takeBracketed?_eq_some_iff ne, fun inner rest inner' rest' h h' => ?_,
    takeBracketed?_eq_none_iff ne, cut_at_closingOffset? opening closing t⟩
  have same := ((takeBracketed?_eq_some_iff ne).2 h).symm.trans
    ((takeBracketed?_eq_some_iff ne).2 h')
  exact Prod.mk.inj (Option.some.inj same)

/-- Brackets of two bytes around a type with an argument, and a bracket that stays open. -/
theorem takeBracketed?_guillemets :
    '«' ≠ '»' ∧
      IsBracketed '«' '»' ('«' :: "Map«é»» of rows".toList) "Map«é»".toList " of rows".toList ∧
      byteSlice? ('«' :: "Map«é»» of rows".toList) 2 11 = some "Map«é»".toList ∧
      ∀ lead, lead <+: '«' :: "Map«é» of rows".toList → IsBalanced '«' '»' 0 lead → lead = [] := by
  have ne : '«' ≠ '»' := by decide
  have closed := takeBracketed?_iff_isBracketed ne "Map«é»» of rows".toList
  have opened := takeBracketed?_iff_isBracketed ne "Map«é» of rows".toList
  have read : takeBracketed? '«' '»' ('«' :: "Map«é»» of rows".toList) =
      some ("Map«é»".toList, " of rows".toList) := by decide
  have offset : closingOffset? '«' '»' 0 0 ('«' :: "Map«é»» of rows".toList) = some 11 := by decide
  have cut := closed.2.2.2
  rw [offset, read] at cut
  exact ⟨ne, (closed.1 _ _).1 read, (Prod.mk.inj (Option.some.inj cut)).1,
    opened.2.2.1.1 (by decide)⟩

end DocHarvest.Doc
