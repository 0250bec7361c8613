import DocHarvest.Json.Token
import DocHarvest.Json.Value
import DocHarvest.Proofs.Text.Digits
import DocHarvest.Proofs.Text.Runs

/-!
# Rendered values

`tokens j` lists the tokens of a value. `lex_render` : they are what its text is cut into, whatever
follows it that cannot belong to a number. A text comes back from its string token
(`decode?_map_partOf`), a number from its digits (`decimalValue_decimal`).

`not_mem_render` : a value is written on one line.
-/

namespace DocHarvest.Json

open Text

/-! ## Strings -/

/-- Whether a character is written by its number. -/
def isNumbered (c : Char) : Bool :=
  decide (c.toNat < 32 ∧ c ∉ ['\u0008', '\t', '\n', '\u000c', '\r'])

/-- The part of a string that a character is read as. -/
def partOf (c : Char) : StringPart := if isNumbered c then .unit c.toNat else .char c

theorem hexNumber?_of_lt : ∀ n < 32,
    hexNumber? ['0', '0', hexDigit (n / 16), hexDigit (n % 16)] = some n := by
  decide

theorem lexString?_escape (c : Char) (t : Text) :
    lexString? (escape c ++ t) = withPart (partOf c) (lexString? t) := by
  by_cases hc : c ∈ ['"', '\\', '\u0008', '\t', '\n', '\u000c', '\r']
  · -- these are written by one letter
    simp only [List.mem_cons, List.not_mem_nil, or_false] at hc
    rcases hc with rfl | rfl | rfl | rfl | rfl | rfl | rfl <;> rfl
  · simp only [List.mem_cons, List.not_mem_nil, or_false, not_or] at hc
    obtain ⟨h1, h2, h3, h4, h5, h6, h7⟩ := hc
    unfold escape partOf isNumbered
    simp only [h1, h2, h3, h4, h5, h6, h7, if_false]
    by_cases low : c.toNat < 32
    · simp [low, lexString?, hexNumber?_of_lt c.toNat low, h3, h4, h5, h6, h7]
    · simp [low, lexString?, h2]

theorem lexString?_flatMap_escape (t rest : Text) :
    lexString? (t.flatMap escape ++ '"' :: rest) = some (t.map partOf, rest) := by
  induction t with
  | nil => rfl
  | cons c t ih =>
    rw [List.flatMap_cons, List.append_assoc, lexString?_escape, ih]
    rfl

theorem decode?_map_partOf (t : Text) : decode? (t.map partOf) = some t := by
  induction t with
  | nil => rfl
  | cons c t ih =>
    rw [List.map_cons, partOf]
    by_cases numbered : isNumbered c = true
    · rw [if_pos numbered]
      -- a character that is written by its number is no part of a pair
      have low : c.toNat < 32 := (of_decide_eq_true numbered).1
      have high : isHighUnit c.toNat = false := by unfold isHighUnit; grind
      have second : isLowUnit c.toNat = false := by unfold isLowUnit; grind
      unfold decode?
      simp [high, second, ih]
    · simp [decode?, numbered, ih]

/-! ## Numbers -/

/-- Whether a text cannot go on with what stands before it: it begins with white space or a sign. -/
def startsApart : Text → Bool
  | [] => true
  | c :: _ => isSpace c || (sign? c).isSome

theorem not_numeric_of_startsApart {c : Char} {t : Text} (h : startsApart (c :: t) = true) :
    c.isDigit = false ∧ c ≠ '.' ∧ c ≠ 'e' ∧ c ≠ 'E' := by
  have mem : c ∈ [' ', '\n', '\t', '\r', '[', ']', '\x7b', '\x7d', ',', ':'] := by
    refine Decidable.byContradiction fun other => ?_
    simp only [List.mem_cons, List.not_mem_nil, or_false, not_or] at other
    simp [startsApart, isSpace, sign?, other] at h
  simp only [List.mem_cons, List.not_mem_nil, or_false] at mem
  rcases mem with rfl | rfl | rfl | rfl | rfl | rfl | rfl | rfl | rfl | rfl <;> decide

/-- The form in which a number is written. -/
def formOf (n : Nat) : NumberForm := ⟨false, decimal n, none, none⟩

theorem lexDigits?_decimal (n : Nat) {rest : Text} (apart : startsApart rest = true) :
    lexDigits? (decimal n ++ rest) = some (decimal n, rest) := by
  have all : ∀ c ∈ decimal n, c.isDigit = true := fun _ => isDigit_of_mem_decimal
  have stop : ∀ c ∈ rest.head?, c.isDigit = false := by
    intro c hc
    obtain ⟨t, rfl⟩ := List.head?_eq_some_iff.1 hc
    exact (not_numeric_of_startsApart apart).1
  have ⟨taken, dropped⟩ := takeWhile_append_of_stop all stop
  simp only [lexDigits?, taken, dropped]
  rw [if_neg (by simpa using decimal_ne_nil n)]

theorem lexFraction?_of_startsApart {rest : Text} (apart : startsApart rest = true) :
    lexFraction? rest = some (none, rest) := by
  unfold lexFraction?
  split
  · exact absurd rfl (not_numeric_of_startsApart apart).2.1
  · rfl

theorem lexExponent?_of_startsApart {rest : Text} (apart : startsApart rest = true) :
    lexExponent? rest = some (none, rest) := by
  unfold lexExponent?
  split
  · rfl
  · obtain ⟨-, -, small, capital⟩ := not_numeric_of_startsApart apart
    rw [if_neg (by simp [small, capital])]

theorem lexNumber?_decimal (n : Nat) {rest : Text} (apart : startsApart rest = true) :
    lexNumber? false (decimal n ++ rest) = some (formOf n, rest) := by
  have single : ¬((decimal n).head? = some '0' && (decimal n).length ≠ 1) = true := by
    simpa using length_decimal_of_head?_eq_zero
  simp only [lexNumber?, lexDigits?_decimal n apart, if_neg single,
    lexFraction?_of_startsApart apart, lexExponent?_of_startsApart apart, formOf]

/-! ## Values -/

mutual

/-- The tokens of a value. -/
def tokens : Json → List Token
  | null => [.null]
  | bool b => [.bool b]
  | number n => [.number (formOf n)]
  | text t => [.string (t.map partOf)]
  | array items => .openArray :: itemTokens items ++ [.closeArray]
  | object members => .openObject :: memberTokens members ++ [.closeObject]

/-- The tokens of items with commas between them. -/
def itemTokens : List Json → List Token
  | [] => []
  | [item] => tokens item
  | item :: next :: items => tokens item ++ .comma :: itemTokens (next :: items)

/-- The tokens of members with commas between them. -/
def memberTokens : List (Text × Json) → List Token
  | [] => []
  | [(name, value)] => .string (name.map partOf) :: .colon :: tokens value
  | (name, value) :: next :: members =>
    .string (name.map partOf) :: .colon :: tokens value ++ .comma :: memberTokens (next :: members)

end

theorem lex_of_lexeme? {c : Char} {t rest : Text} {token : Token} (space : isSpace c = false)
    (h : lexeme? c t = some (token, rest)) : lex (c :: t) = token :: lex rest := by
  rw [lex, if_neg (by simp [space])]
  split
  · next h' =>
    obtain ⟨rfl, rfl⟩ := Prod.mk.inj (Option.some.inj (h.symm.trans h'))
    rfl
  · next h' => cases h.symm.trans h'

theorem lex_sign {c : Char} (token : Token) (h : sign? c = some token) (t : Text) :
    lex (c :: t) = token :: lex t := by
  refine lex_of_lexeme? ?_ (by simp [lexeme?, h])
  refine Bool.eq_false_iff.2 fun space => ?_
  simp only [isSpace, Bool.or_eq_true, decide_eq_true_eq] at space
  rcases space with ((rfl | rfl) | rfl) | rfl <;> exact absurd h nofun

theorem lex_renderText (t rest : Text) :
    lex (renderText t ++ rest) = .string (t.map partOf) :: lex rest := by
  have text : renderText t ++ rest = '"' :: (t.flatMap escape ++ '"' :: rest) := by
    simp [renderText]
  rw [text]
  refine lex_of_lexeme? rfl ?_
  simp [lexeme?, sign?, lexString?_flatMap_escape]

theorem lex_decimal (n : Nat) {rest : Text} (apart : startsApart rest = true) :
    lex (decimal n ++ rest) = .number (formOf n) :: lex rest := by
  cases hd : decimal n with
  | nil => exact absurd hd (decimal_ne_nil n)
  | cons c t =>
    have digit : c.isDigit = true := isDigit_of_mem_decimal (n := n) (hd ▸ List.mem_cons_self)
    have read := lexNumber?_decimal n apart
    rw [hd, List.cons_append] at read
    -- no digit is white space, a sign, a quotation mark or a minus
    have other : isSpace c = false ∧ sign? c = none ∧ c ≠ '"' ∧ c ≠ '-' := by
      refine Decidable.byContradiction fun special => ?_
      have mem : c ∈ [' ', '\n', '\t', '\r', '[', ']', '\x7b', '\x7d', ',', ':', '"', '-'] := by
        refine Decidable.byContradiction fun none => special ?_
        simp only [List.mem_cons, List.not_mem_nil, or_false, not_or] at none
        simp [isSpace, sign?, none]
      simp only [List.mem_cons, List.not_mem_nil, or_false] at mem
      rcases mem with rfl | rfl | rfl | rfl | rfl | rfl | rfl | rfl | rfl | rfl | rfl | rfl <;>
        exact absurd digit (by decide)
    rw [List.cons_append]
    refine lex_of_lexeme? other.1 ?_
    simp [lexeme?, other.2.1, other.2.2.1, other.2.2.2, digit, read]

mutual

/-- The text of a value is cut into its tokens, and what follows it into its own. -/
theorem lex_render (j : Json) (rest : Text) (apart : startsApart rest = true) :
    lex (render j ++ rest) = tokens j ++ lex rest := by
  cases j with
  | null => exact lex_of_lexeme? rfl rfl
  | bool b => cases b <;> exact lex_of_lexeme? rfl rfl
  | number n => exact lex_decimal n apart
  | text t => exact lex_renderText t rest
  | array items =>
    have inner := lex_renderItems items (']' :: rest) rfl
    simp only [render, tokens, List.cons_append, List.append_assoc, List.nil_append]
    rw [lex_sign .openArray rfl, inner, lex_sign .closeArray rfl]
  | object members =>
    have inner := lex_renderMembers members ('\x7d' :: rest) rfl
    simp only [render, tokens, List.cons_append, List.append_assoc, List.nil_append]
    rw [lex_sign .openObject rfl, inner, lex_sign .closeObject rfl]

theorem lex_renderItems (items : List Json) (rest : Text) (apart : startsApart rest = true) :
    lex (renderItems items ++ rest) = itemTokens items ++ lex rest := by
  match items with
  | [] => rfl
  | [item] => exact lex_render item rest apart
  | item :: next :: items =>
    have first := lex_render item (',' :: (renderItems (next :: items) ++ rest)) rfl
    simp only [renderItems, itemTokens, List.append_assoc, List.cons_append]
    rw [first, lex_sign .comma rfl, lex_renderItems (next :: items) rest apart]

theorem lex_renderMembers (members : List (Text × Json)) (rest : Text)
    (apart : startsApart rest = true) :
    lex (renderMembers members ++ rest) = memberTokens members ++ lex rest := by
  match members with
  | [] => rfl
  | [(name, value)] =>
    simp only [renderMembers, memberTokens, List.append_assoc, List.cons_append]
    rw [lex_renderText, lex_sign .colon rfl, lex_render value rest apart]
  | (name, value) :: next :: members =>
    have first := lex_render value (',' :: (renderMembers (next :: members) ++ rest)) rfl
    simp only [renderMembers, memberTokens, List.append_assoc, List.cons_append]
    rw [lex_renderText, lex_sign .colon rfl, first, lex_sign .comma rfl,
      lex_renderMembers (next :: members) rest apart]

end

/-! ## Lines -/

theorem not_mem_escape (c : Char) : '\n' ∉ escape c := by
  by_cases hc : c ∈ ['"', '\\', '\u0008', '\t', '\n', '\u000c', '\r']
  · simp only [List.mem_cons, List.not_mem_nil, or_false] at hc
    rcases hc with rfl | rfl | rfl | rfl | rfl | rfl | rfl <;> decide
  · simp only [List.mem_cons, List.not_mem_nil, or_false, not_or] at hc
    obtain ⟨h1, h2, h3, h4, h5, h6, h7⟩ := hc
    unfold escape
    simp only [h1, h2, h3, h4, h5, h6, h7, if_false]
    split
    · next low =>
      have digits : ∀ n < 32,
          '\n' ∉ ['\\', 'u', '0', '0', hexDigit (n / 16), hexDigit (n % 16)] := by
        decide
      exact digits _ low
    · simp [Ne.symm h5]

theorem not_mem_renderText (t : Text) : '\n' ∉ renderText t := by
  unfold renderText
  simp only [List.mem_cons, List.mem_append, List.mem_flatMap, List.not_mem_nil, not_or]
  refine ⟨⟨by decide, ?_⟩, by decide, not_false⟩
  rintro ⟨c, -, h⟩
  exact not_mem_escape c h

mutual

theorem not_mem_render (j : Json) : '\n' ∉ render j := by
  cases j with
  | null => decide
  | bool b => cases b <;> decide
  | number n => exact not_mem_decimal (by decide) n
  | text t => exact not_mem_renderText t
  | array items => simp [render, not_mem_renderItems items]
  | object members => simp [render, not_mem_renderMembers members]

theorem not_mem_renderItems (items : List Json) : '\n' ∉ renderItems items := by
  match items with
  | [] => exact List.not_mem_nil
  | [item] => exact not_mem_render item
  | item :: next :: items =>
    simp [renderItems, not_mem_render item, not_mem_renderItems (next :: items)]

theorem not_mem_renderMembers (members : List (Text × Json)) : '\n' ∉ renderMembers members := by
  match members with
  | [] => exact List.not_mem_nil
  | [(name, value)] => simp [renderMembers, not_mem_renderText name, not_mem_render value]
  | (name, value) :: next :: members =>
    simp [renderMembers, not_mem_renderText name, not_mem_render value,
      not_mem_renderMembers (next :: members)]

end

end DocHarvest.Json
