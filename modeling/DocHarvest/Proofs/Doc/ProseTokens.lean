import DocHarvest.Doc.Token
import DocHarvest.Proofs.Text.Runs

/-!
# How prose is read as tokens

`IsReadAs t ts` : the text `t` is the tokens `ts` one after another, with separators around them, and
no token goes on with the text behind it (`IsToken`). `tokens t` are the only tokens that a text is
read as (`tokens_eq_iff`), so what holds of tokens is shown by induction on `IsReadAs`.

* `flatten_tokens_and_kinds` : nothing but separators is lost, and each token is a longest word, an
  empty pair of brackets or a run of one punctuation character
* `tokens_append_cons_and_join` : a separator parts the tokens before it from those behind it, so
  tokens with spaces between them are read as themselves
-/

namespace DocHarvest.Doc

open Text

variable {t a b token behind : Text} {c d : Char} {ts ts' : List Text}

/-! ## Classes of characters -/

theorem isSeparator_of_isPunctuation (h : isPunctuation c = true) : isSeparator c = false := by
  have none : ['.', '(', ')', ':', '[', ']', '=', '*', ';', '>', '{', '}', '+', '-', '/', '\\'].any
      isSeparator = false := by decide
  exact Bool.eq_false_iff.2 (List.any_eq_false.1 none c (List.contains_iff_mem.1 h))

theorem isTokenLetter_of_isPunctuation (h : isPunctuation c = true) : isTokenLetter c = false := by
  simp [isTokenLetter, h]

theorem isTokenLetter_of_isSeparator (h : isSeparator c = true) : isTokenLetter c = false := by
  simp [isTokenLetter, h]

theorem isSeparator_of_isTokenLetter (h : isTokenLetter c = true) : isSeparator c = false := by
  rw [isTokenLetter, Bool.and_eq_true, Bool.not_eq_true'] at h
  exact h.1

theorem isPunctuation_of_not (h : isSeparator c = false) (h' : isTokenLetter c = false) :
    isPunctuation c = true := by
  simpa [isTokenLetter, h] using h'

/-- The pairs of brackets that are one token. -/
def emptyPairs : List Text := [['(', ')'], ['{', '}'], ['[', ']']]

theorem closingBracket?_eq_some : closingBracket? c = some d ↔ [c, d] ∈ emptyPairs := by
  unfold closingBracket? emptyPairs
  split
  · next e => simp [e, eq_comm]
  · split
    · next e => simp [e, eq_comm]
    · split
      · next e => simp [e, eq_comm]
      · simp_all

theorem closingBracket?_ne (c : Char) : closingBracket? c ≠ some c := by
  intro h
  have pair := closingBracket?_eq_some.1 h
  simp only [emptyPairs, List.mem_cons, List.not_mem_nil, or_false] at pair
  rcases pair with e | e | e <;> cases e

/-- Both brackets of a pair are punctuation. -/
theorem isPunctuation_of_closingBracket? (h : closingBracket? c = some d) :
    isPunctuation c = true ∧ isPunctuation d = true := by
  have pair := closingBracket?_eq_some.1 h
  simp only [emptyPairs, List.mem_cons, List.not_mem_nil, or_false] at pair
  rcases pair with e | e | e <;> (cases e; decide)

/-! ## Tokens -/

/-- A token that does not go on with the text behind it. -/
inductive IsToken : Text → Text → Prop
  | word {token behind : Text} : token ≠ [] → (∀ c ∈ token, isTokenLetter c = true) →
      (∀ c ∈ behind.head?, isTokenLetter c = false) → IsToken token behind
  | pair {c d : Char} {behind : Text} : closingBracket? c = some d → IsToken [c, d] behind
  | run {c : Char} {n : Nat} {behind : Text} : isPunctuation c = true →
      (∀ d ∈ behind.head?, d ≠ c) → (n = 0 → closesAtOnce c behind = false) →
      IsToken (List.replicate (n + 1) c) behind

theorem IsToken.ne_nil (h : IsToken token behind) : token ≠ [] := by
  cases h with
  | word ne => exact ne
  | pair => exact List.cons_ne_nil _ _
  | run => exact List.cons_ne_nil _ _

/-- A token is all letters, up to the next character that is none, or all punctuation. -/
theorem IsToken.all_or (h : IsToken token behind) :
    (∀ c ∈ token, isTokenLetter c = true) ∧ (∀ c ∈ behind.head?, isTokenLetter c = false) ∨
    ∀ c ∈ token, isPunctuation c = true := by
  cases h with
  | word _ all stop => exact .inl ⟨all, stop⟩
  | pair closes =>
    have ⟨left, right⟩ := isPunctuation_of_closingBracket? closes
    exact .inr (by simp [left, right])
  | run punctuation =>
    refine .inr fun x hx => ?_
    rwa [List.eq_of_mem_replicate hx]

theorem IsToken.isSeparator_eq (h : IsToken token behind) : ∀ c ∈ token, isSeparator c = false := by
  intro c hc
  rcases h.all_or with ⟨all, -⟩ | all
  · exact isSeparator_of_isTokenLetter (all c hc)
  · exact isSeparator_of_isPunctuation (all c hc)

theorem closesAtOnce_eq_true : closesAtOnce c t = true ↔ ∃ d ∈ t.head?, closingBracket? c = some d := by
  simp [closesAtOnce, Option.any_eq_true]

/-- A token looks no further than one character, and no separator changes it. -/
theorem IsToken.of_head? (h : IsToken token a)
    (head : ∀ d ∈ b.head?, d ∈ a.head? ∨ isSeparator d = true) : IsToken token b := by
  cases h with
  | word ne all stop =>
    refine .word ne all fun d hd => ?_
    rcases head d hd with same | separator
    · exact stop d same
    · exact isTokenLetter_of_isSeparator separator
  | pair closes => exact .pair closes
  | @run c n _ punctuation stop single =>
    have apart {d : Char} (separator : isSeparator d = true) : isPunctuation d = false := by
      by_contra h
      rw [isSeparator_of_isPunctuation (by simpa using h)] at separator
      cases separator
    refine .run punctuation (fun d hd => ?_) fun zero => ?_
    · rcases head d hd with same | separator
      · exact stop d same
      · rintro rfl
        rw [apart separator] at punctuation
        cases punctuation
    · rw [Bool.eq_false_iff, ne_eq, closesAtOnce_eq_true]
      rintro ⟨d, hd, closes⟩
      rcases head d hd with same | separator
      · have open' := closesAtOnce_eq_true.2 ⟨d, same, closes⟩
        rw [single zero] at open'
        cases open'
      · have closing := (isPunctuation_of_closingBracket? closes).2
        rw [apart separator] at closing
        cases closing

theorem IsToken.alone (h : IsToken token behind) : IsToken token [] := h.of_head? nofun

/-! ## Reading -/

/-- The text is these tokens with separators around them. -/
inductive IsReadAs : Text → List Text → Prop
  | nil : IsReadAs [] []
  | separator {c : Char} {t : Text} {ts : List Text} : isSeparator c = true → IsReadAs t ts →
      IsReadAs (c :: t) ts
  | token {token behind : Text} {ts : List Text} : IsToken token behind → IsReadAs behind ts →
      IsReadAs (token ++ behind) (token :: ts)

theorem tokens_cons (c : Char) (t : Text) : tokens (c :: t) =
    if isSeparator c then tokens t
    else if isTokenLetter c then
      (c :: t.takeWhile isTokenLetter) :: tokens (t.dropWhile isTokenLetter)
    else if closesAtOnce c t then (c :: t.take 1) :: tokens (t.drop 1)
    else (c :: t.takeWhile (· = c)) :: tokens (t.dropWhile (· = c)) := tokens.eq_def _

/-- A token in front of a text is read first. -/
theorem tokens_append (h : IsToken token behind) :
    tokens (token ++ behind) = token :: tokens behind := by
  cases h with
  | word ne all stop =>
    obtain ⟨c, token, rfl⟩ := List.exists_cons_of_ne_nil ne
    obtain ⟨letter, all⟩ := List.forall_mem_cons.1 all
    have ⟨taken, dropped⟩ := takeWhile_append_of_stop all stop
    rw [List.cons_append, tokens_cons, if_neg (by simp [isSeparator_of_isTokenLetter letter]),
      if_pos letter, taken, dropped]
  | @pair c d _ closes =>
    have punctuation := (isPunctuation_of_closingBracket? closes).1
    have closed : closesAtOnce c (d :: behind) = true := closesAtOnce_eq_true.2 ⟨d, rfl, closes⟩
    simp [tokens_cons c, isSeparator_of_isPunctuation punctuation,
      isTokenLetter_of_isPunctuation punctuation, closed]
  | @run c n _ punctuation stop single =>
    have unclosed : closesAtOnce c (List.replicate n c ++ behind) = false := by
      cases n with
      | zero => exact single rfl
      | succ n =>
        rw [Bool.eq_false_iff, ne_eq, closesAtOnce_eq_true]
        rintro ⟨d, hd, closes⟩
        obtain rfl := Option.some.inj hd
        exact closingBracket?_ne c closes
    have same : ∀ x ∈ List.replicate n c, decide (x = c) = true := by
      intro x hx
      exact decide_eq_true (List.eq_of_mem_replicate hx)
    have ⟨taken, dropped⟩ :=
      takeWhile_append_of_stop same fun d hd => decide_eq_false (stop d hd)
    rw [List.replicate_succ, List.cons_append, tokens_cons,
      if_neg (by simp [isSeparator_of_isPunctuation punctuation]),
      if_neg (by simp [isTokenLetter_of_isPunctuation punctuation]), if_neg (by simp [unclosed]),
      taken, dropped]

theorem isReadAs_tokens (t : Text) : IsReadAs t (tokens t) := by
  fun_induction tokens t with
  | case1 => exact .nil
  | case2 c t separator ih => exact .separator separator ih
  | case3 c t separator letter ih =>
    have whole : (c :: t.takeWhile isTokenLetter) ++ t.dropWhile isTokenLetter = c :: t := by simp
    rw [← whole]
    refine .token (.word (List.cons_ne_nil _ _) ?_ fun d hd => eq_false_of_mem_head?_dropWhile hd) ih
    exact List.forall_mem_cons.2 ⟨letter, fun d hd => List.mem_takeWhile_imp hd⟩
  | case4 c t separator letter closes ih =>
    obtain ⟨d, hd, bracket⟩ := closesAtOnce_eq_true.1 closes
    obtain ⟨t, rfl⟩ := List.head?_eq_some_iff.1 hd
    exact .token (.pair bracket) ih
  | case5 c t separator letter closes ih =>
    have punctuation := isPunctuation_of_not (by simpa using separator) (by simpa using letter)
    have same : c :: t.takeWhile (· = c) =
        List.replicate ((t.takeWhile (· = c)).length + 1) c := by
      refine List.eq_replicate_iff.2 ⟨rfl, List.forall_mem_cons.2 ⟨rfl, fun x hx => ?_⟩⟩
      simpa using List.mem_takeWhile_imp hx
    have whole : (c :: t.takeWhile (· = c)) ++ t.dropWhile (· = c) = c :: t := by simp
    rw [← whole]
    rw [same]
    refine .token (.run punctuation (fun d hd => ?_) fun zero => ?_) ih
    · simpa using eq_false_of_mem_head?_dropWhile hd
    · have whole := List.takeWhile_append_dropWhile (p := (· = c)) (l := t)
      rw [List.eq_nil_of_length_eq_zero zero, List.nil_append] at whole
      rw [whole]
      simpa using closes

/-- A text is read as its tokens and as no others. -/
theorem tokens_eq_iff : tokens t = ts ↔ IsReadAs t ts := by
  constructor
  · rintro rfl
    exact isReadAs_tokens t
  · intro h
    induction h with
    | nil => exact tokens.eq_def []
    | separator separator _ ih => rw [tokens_cons, if_pos separator, ih]
    | token token _ ih => rw [tokens_append token, ih]

/-! ## What tokens a text has -/

theorem IsReadAs.flatten_eq (h : IsReadAs t ts) : ts.flatten = t.filter (!isSeparator ·) := by
  induction h with
  | nil => rfl
  | separator separator _ ih => rw [List.filter_cons_of_neg (by simp [separator]), ih]
  | @token token behind _ isToken _ ih =>
    have kept : token.filter (!isSeparator ·) = token :=
      List.filter_eq_self.2 fun c hc => by simp [isToken.isSeparator_eq c hc]
    rw [List.flatten_cons, List.filter_append, kept, ih]

/-- A token stands between the texts that the tokens before it and behind it are read from, and no
letter stands before a word. -/
theorem IsReadAs.exists_append {earlier later : List Text}
    (h : IsReadAs t (earlier ++ token :: later)) : ∃ before behind,
      t = before ++ token ++ behind ∧ IsReadAs before earlier ∧ IsReadAs behind later ∧
      IsToken token behind ∧
      ((∀ c ∈ token, isTokenLetter c = true) → ∀ c ∈ before.getLast?, isTokenLetter c = false) := by
  generalize e : earlier ++ token :: later = ts at h
  induction h generalizing earlier with
  | nil => simp at e
  | @separator c t ts separator _ ih =>
    obtain ⟨before, behind, rfl, front, back, isToken, starts⟩ := ih e
    refine ⟨c :: before, behind, by simp, .separator separator front, back, isToken, ?_⟩
    intro letters d hd
    rw [List.getLast?_cons] at hd
    cases last : before.getLast? with
    | none =>
      rw [last] at hd
      exact Option.some.inj hd ▸ isTokenLetter_of_isSeparator separator
    | some x =>
      rw [last] at hd
      exact starts letters d (last.trans hd)
  | @token first rest ts isFirst read ih =>
    cases earlier with
    | nil =>
      obtain ⟨rfl, rfl⟩ := List.cons.inj e
      exact ⟨[], rest, by simp, .nil, read, isFirst, fun _ => nofun⟩
    | cons x earlier =>
      obtain ⟨rfl, others⟩ := List.cons.inj e
      obtain ⟨before, behind, rfl, front, back, isToken, starts⟩ := ih others
      have inFront : IsToken x before := isFirst.of_head? fun d hd => .inl (by simp_all)
      refine ⟨x ++ before, behind, by simp, .token inFront front, back, isToken, ?_⟩
      intro letters d hd
      cases last : before.getLast? with
      | some y =>
        rw [List.getLast?_append, last] at hd
        exact starts letters d (last.trans hd)
      | none =>
        -- a word right behind `x` would have been read with it if `x` were one
        obtain rfl := List.getLast?_eq_none_iff.1 last
        rw [List.append_nil] at hd
        rcases isFirst.all_or with ⟨-, stop⟩ | all
        · obtain ⟨y, token, rfl⟩ := List.exists_cons_of_ne_nil isToken.ne_nil
          have letter := letters y List.mem_cons_self
          rw [stop y rfl] at letter
          cases letter
        · exact isTokenLetter_of_isPunctuation (all d (List.mem_of_getLast? hd))

/-- The tokens of a text are all of it but the separators. Each is a longest piece of letters, an
empty pair of brackets or all there is from here of one punctuation character, and what stands before
it and behind it has the other tokens. -/
theorem flatten_tokens_and_kinds (t : Text) : (tokens t).flatten = t.filter (!isSeparator ·) ∧
    ∀ earlier token later, tokens t = earlier ++ token :: later →
      token ≠ [] ∧ ∃ before behind, t = before ++ token ++ behind ∧
        tokens before = earlier ∧ tokens behind = later ∧
        (IsLongest isTokenLetter before token behind ∨
          (∃ c, isPunctuation c = true ∧ (∀ x ∈ token, x = c) ∧ behind.head? ≠ some c) ∨
          token ∈ emptyPairs) := by
  refine ⟨(isReadAs_tokens t).flatten_eq, fun earlier token later e => ?_⟩
  obtain ⟨before, behind, parts, front, back, isToken, starts⟩ :=
    (tokens_eq_iff.1 e).exists_append
  refine ⟨isToken.ne_nil, before, behind, parts, tokens_eq_iff.2 front, tokens_eq_iff.2 back, ?_⟩
  cases isToken with
  | word ne all stop => exact .inl ⟨ne, all, starts all, stop⟩
  | pair closes => exact .inr (.inr (closingBracket?_eq_some.1 closes))
  | @run c n _ punctuation stop _ =>
    exact .inr (.inl ⟨c, punctuation, fun x hx => List.eq_of_mem_replicate hx,
      fun head => stop c head rfl⟩)

/-- An empty pair of brackets between an open bracket and the one that closes it. -/
theorem tokens_nestedCall :
    tokens "f(g()), [x..]".toList = ["f", "(", "g"].map String.toList ++
      "()".toList :: [")", "[", "x", "..", "]"].map String.toList ∧
    "()".toList ≠ [] ∧ ∃ before behind,
      "f(g()), [x..]".toList = before ++ "()".toList ++ behind ∧
      tokens before = ["f", "(", "g"].map String.toList ∧
      tokens behind = [")", "[", "x", "..", "]"].map String.toList ∧
      (IsLongest isTokenLetter before "()".toList behind ∨
        (∃ c, isPunctuation c = true ∧ (∀ x ∈ "()".toList, x = c) ∧ behind.head? ≠ some c) ∨
        "()".toList ∈ emptyPairs) := by
  have read : tokens "f(g()), [x..]".toList = ["f", "(", "g"].map String.toList ++
      "()".toList :: [")", "[", "x", "..", "]"].map String.toList := by decide +kernel
  exact ⟨read, (flatten_tokens_and_kinds _).2 _ _ _ read⟩

/-! ## Separators between tokens -/

theorem IsReadAs.append (h : IsReadAs a ts) (h' : IsReadAs b ts') (hc : isSeparator c = true) :
    IsReadAs (a ++ c :: b) (ts ++ ts') := by
  induction h with
  | nil => exact .separator hc h'
  | separator separator _ ih => exact .separator separator ih
  | @token token behind ts isToken _ ih =>
    have longer : IsToken token (behind ++ c :: b) := by
      refine isToken.of_head? fun d hd => ?_
      cases behind with
      | nil => exact .inr (Option.some.inj hd ▸ hc)
      | cons x behind => exact .inl hd
    rw [List.append_assoc]
    exact .token longer ih

theorem tokens_append_cons (hc : isSeparator c = true) (a b : Text) :
    tokens (a ++ c :: b) = tokens a ++ tokens b :=
  tokens_eq_iff.2 ((isReadAs_tokens a).append (isReadAs_tokens b) hc)

/-- Each token by itself is read as that token. -/
theorem tokens_of_mem_tokens (h : token ∈ tokens t) : tokens token = [token] := by
  obtain ⟨earlier, later, e⟩ := List.append_of_mem h
  obtain ⟨before, behind, -, -, -, isToken, -⟩ := (tokens_eq_iff.1 e).exists_append
  have alone := tokens_append isToken.alone
  rwa [List.append_nil, tokens_eq_iff.2 .nil] at alone

theorem tokens_join (h : ∀ token ∈ ts, tokens token = [token]) : tokens (join ' ' ts) = ts := by
  induction ts with
  | nil => exact tokens_eq_iff.2 .nil
  | cons token ts ih =>
    obtain ⟨first, rest⟩ := List.forall_mem_cons.1 h
    cases ts with
    | nil => exact first
    | cons next ts => rw [join, tokens_append_cons rfl, first, ih rest, List.singleton_append]

/-- A separator parts the tokens before it from those behind it, and the tokens of a text with single
spaces between them are read again as they are. -/
theorem tokens_append_cons_and_join (t : Text) :
    (∀ c, isSeparator c = true → ∀ a b, tokens (a ++ c :: b) = tokens a ++ tokens b) ∧
    tokens (join ' ' (tokens t)) = tokens t :=
  ⟨fun _ hc a b => tokens_append_cons hc a b, tokens_join fun _ h => tokens_of_mem_tokens h⟩

/-- A comma inside a pair of brackets, and a text of tokens that could run into each other. -/
theorem tokens_partedPair :
    isSeparator ',' = true ∧
    tokens ("f(".toList ++ ',' :: ")".toList) = tokens "f(".toList ++ tokens ")".toList ∧
    tokens (join ' ' (tokens "(()) = \x7b\x7d,\u00a0\x7d".toList)) = tokens "(()) = \x7b\x7d,\u00a0\x7d".toList := by
  have separator : isSeparator ',' = true := by decide
  exact ⟨separator, (tokens_append_cons_and_join []).1 ',' separator _ _,
    (tokens_append_cons_and_join _).2⟩

end DocHarvest.Doc
