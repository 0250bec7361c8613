import DocHarvest.Text.Digits
import DocHarvest.Text.Replacement

/-!
# Tokens of JSON text

`lex` cuts a text into tokens and ends with the token `bad` where the text stops being JSON, so that
a reader meets what is wrong in the order of the text. A string token keeps the 16-bit units that
were written as escapes; `decode?` puts them together.
-/

namespace DocHarvest.Json

open Text

/-- A part of a string: a character, or a 16-bit unit written as an escape. -/
inductive StringPart where
  | char (c : Char)
  | unit (n : Nat)
deriving DecidableEq

/-- A number as it is written. -/
structure NumberForm where
  negative : Bool
  whole : Text
  fraction : Option Text
  /-- Whether the exponent is negative, and its digits. -/
  exponent : Option (Bool × Text)
deriving DecidableEq

/-- A token. -/
inductive Token where
  | null
  | bool (b : Bool)
  | number (form : NumberForm)
  | string (parts : List StringPart)
  | openArray
  | closeArray
  | openObject
  | closeObject
  | comma
  | colon
  | bad
deriving DecidableEq

/-! ## Strings -/

/-- The character that an escape of one letter stands for. -/
def escaped? (c : Char) : Option Char :=
  if c = '"' || c = '\\' || c = '/' then some c
  else if c = 'b' then some '\u0008'
  else if c = 'f' then some '\u000c'
  else if c = 'n' then some '\n'
  else if c = 'r' then some '\r'
  else if c = 't' then some '\t'
  else none

/-- Puts a part in front of what was read. -/
def withPart (part : StringPart) : Option (List StringPart × Text) → Option (List StringPart × Text) :=
  Option.map fun (parts, rest) => (part :: parts, rest)

/-- Reads a string up to its closing quote. -/
def lexString? : Text → Option (List StringPart × Text)
  | [] => none
  | '"' :: t => some ([], t)
  | '\\' :: 'u' :: a :: b :: c :: d :: t =>
    match hexNumber? [a, b, c, d] with
    | some n => withPart (.unit n) (lexString? t)
    | none => none
  | '\\' :: e :: t =>
    match escaped? e with
    | some c => withPart (.char c) (lexString? t)
    | none => none
  | c :: t => if c.toNat < 32 then none else withPart (.char c) (lexString? t)

/-- Whether a unit is the first of a pair. -/
def isHighUnit (n : Nat) : Bool := 0xD800 ≤ n && n < 0xDC00

/-- Whether a unit is the second of a pair. -/
def isLowUnit (n : Nat) : Bool := 0xDC00 ≤ n && n < 0xE000

/-- The character that a pair of units stands for. -/
def pairedChar (high low : Nat) : Char :=
  Char.ofNat (0x10000 + (high - 0xD800) * 1024 + (low - 0xDC00))

/-- The text of a string, unless a unit lacks its pair. -/
def decode? : List StringPart → Option Text
  | [] => some []
  | .char c :: parts => (decode? parts).map (c :: ·)
  | .unit n :: parts =>
    if isHighUnit n then
      match parts with
      | .unit m :: parts =>
        if isLowUnit m then (decode? parts).map (pairedChar n m :: ·) else none
      | _ => none
    else if isLowUnit n then none
    else (decode? parts).map (Char.ofNat n :: ·)

/-! ## Numbers -/

/-- Reads digits, at least one. -/
def lexDigits? (t : Text) : Option (Text × Text) :=
  if (t.takeWhile Char.isDigit).isEmpty then none
  else some (t.takeWhile Char.isDigit, t.dropWhile Char.isDigit)

/-- Reads the fraction of a number, if it has one. -/
def lexFraction? : Text → Option (Option Text × Text)
  | '.' :: t => (lexDigits? t).map fun (digits, rest) => (some digits, rest)
  | t => some (none, t)

/-- Reads the sign and the digits of an exponent. -/
def lexSigned? : Text → Option ((Bool × Text) × Text)
  | '-' :: t => (lexDigits? t).map fun (digits, rest) => ((true, digits), rest)
  | '+' :: t => (lexDigits? t).map fun (digits, rest) => ((false, digits), rest)
  | t => (lexDigits? t).map fun (digits, rest) => ((false, digits), rest)

/-- Reads the exponent of a number, if it has one. -/
def lexExponent? : Text → Option (Option (Bool × Text) × Text)
  | [] => some (none, [])
  | c :: t =>
    if c = 'e' || c = 'E' then (lexSigned? t).map fun (exponent, rest) => (some exponent, rest)
    else some (none, c :: t)

/-- Reads a number without its sign; a leading zero stands alone. -/
def lexNumber? (negative : Bool) (t : Text) : Option (NumberForm × Text) :=
  match lexDigits? t with
  | none => none
  | some (whole, t) =>
    if whole.head? = some '0' && whole.length ≠ 1 then none
    else
      match lexFraction? t with
      | none => none
      | some (fraction, t) =>
        match lexExponent? t with
        | none => none
        | some (exponent, t) => some (⟨negative, whole, fraction, exponent⟩, t)

/-! ## Tokens -/

/-- The white space that may stand between tokens. -/
def isSpace (c : Char) : Bool := c = ' ' || c = '\n' || c = '\t' || c = '\r'

/-- The token that a character makes by itself. -/
def sign? (c : Char) : Option Token :=
  if c = '[' then some .openArray
  else if c = ']' then some .closeArray
  else if c = '\x7b' then some .openObject
  else if c = '\x7d' then some .closeObject
  else if c = ',' then some .comma
  else if c = ':' then some .colon
  else none

/-- The tokens that are written as words. -/
def wordTokens : List (Text × Token) :=
  [("null".toList, .null), ("true".toList, .bool true), ("false".toList, .bool false)]

def lexWord? (t : Text) : Option (Token × Text) :=
  wordTokens.findSome? fun (word, token) => (dropLead? word t).map (token, ·)

/-- Reads the token that begins with `c`. -/
def lexeme? (c : Char) (t : Text) : Option (Token × Text) :=
  match sign? c with
  | some token => some (token, t)
  | none =>
    if c = '"' then (lexString? t).map fun (parts, rest) => (.string parts, rest)
    else if c = '-' then (lexNumber? true t).map fun (form, rest) => (.number form, rest)
    else if c.isDigit then
      (lexNumber? false (c :: t)).map fun (form, rest) => (.number form, rest)
    else lexWord? (c :: t)

theorem length_of_lexString? {t rest : Text} {parts : List StringPart}
    (h : lexString? t = some (parts, rest)) : rest.length ≤ t.length := by
  fun_induction lexString? t generalizing parts rest with
  | case1 => simp at h
  | case2 t =>
    obtain ⟨-, rfl⟩ := Prod.mk.inj (Option.some.inj h)
    simp
  | case3 a b c d t n _ ih =>
    obtain ⟨⟨ps, r⟩, h', e⟩ := Option.map_eq_some_iff.1 h
    obtain ⟨-, rfl⟩ := Prod.mk.inj e
    have := ih h'
    simp; omega
  | case4 => simp at h
  | case5 e t _ c _ ih =>
    obtain ⟨⟨ps, r⟩, h', e⟩ := Option.map_eq_some_iff.1 h
    obtain ⟨-, rfl⟩ := Prod.mk.inj e
    have := ih h'
    simp; omega
  | case6 => simp at h
  | case7 => simp at h
  | case8 c t _ _ _ _ ih =>
    obtain ⟨⟨ps, r⟩, h', e⟩ := Option.map_eq_some_iff.1 h
    obtain ⟨-, rfl⟩ := Prod.mk.inj e
    have := ih h'
    simp; omega

theorem length_of_lexDigits? {t digits rest : Text} (h : lexDigits? t = some (digits, rest)) :
    rest.length < t.length := by
  unfold lexDigits? at h
  split at h
  · simp at h
  · next ne =>
    obtain ⟨-, rfl⟩ := Prod.mk.inj (Option.some.inj h)
    cases t with
    | nil => simp at ne
    | cons c t =>
      by_cases hc : c.isDigit = true
      · rw [List.dropWhile_cons_of_pos hc]
        have := length_dropWhile_le Char.isDigit t
        simp; omega
      · simp [hc] at ne

theorem length_of_lexNumber? {negative : Bool} {t rest : Text} {form : NumberForm}
    (h : lexNumber? negative t = some (form, rest)) : rest.length < t.length := by
  unfold lexNumber? at h
  split at h
  · simp at h
  · next whole t1 h1 =>
    have l1 := length_of_lexDigits? h1
    split at h
    · simp at h
    · split at h
      · simp at h
      · next fraction t2 h2 =>
        have l2 : t2.length ≤ t1.length := by
          unfold lexFraction? at h2
          split at h2
          · obtain ⟨⟨a, b⟩, h', e⟩ := Option.map_eq_some_iff.1 h2
            obtain ⟨-, rfl⟩ := Prod.mk.inj e
            have := length_of_lexDigits? h'
            simp; omega
          · obtain ⟨-, rfl⟩ := Prod.mk.inj (Option.some.inj h2)
            exact Nat.le_refl _
        split at h
        · simp at h
        · next exponent t3 h3 =>
          have l3 : t3.length ≤ t2.length := by
            unfold lexExponent? at h3
            split at h3
            · obtain ⟨-, rfl⟩ := Prod.mk.inj (Option.some.inj h3)
              exact Nat.le_refl _
            · split at h3
              · obtain ⟨⟨a, b⟩, h', e⟩ := Option.map_eq_some_iff.1 h3
                obtain ⟨-, rfl⟩ := Prod.mk.inj e
                unfold lexSigned? at h'
                split at h' <;>
                  · obtain ⟨⟨a, b⟩, h'', e⟩ := Option.map_eq_some_iff.1 h'
                    obtain ⟨-, rfl⟩ := Prod.mk.inj e
                    have := length_of_lexDigits? h''
                    simp only [List.length_cons] at *
                    omega
              · obtain ⟨-, rfl⟩ := Prod.mk.inj (Option.some.inj h3)
                exact Nat.le_refl _
          obtain ⟨-, rfl⟩ := Prod.mk.inj (Option.some.inj h)
          omega

theorem length_of_lexWord? {t rest : Text} {token : Token} (h : lexWord? t = some (token, rest)) :
    rest.length < t.length := by
  obtain ⟨⟨word, token'⟩, mem, h⟩ := List.exists_of_findSome?_eq_some h
  obtain ⟨r, h', e⟩ := Option.map_eq_some_iff.1 h
  obtain ⟨-, rfl⟩ := Prod.mk.inj e
  have len := length_of_dropLead? h'
  have pos : 0 < word.length := by
    simp only [wordTokens, List.mem_cons, Prod.mk.injEq, List.not_mem_nil, or_false] at mem
    rcases mem with ⟨rfl, -⟩ | ⟨rfl, -⟩ | ⟨rfl, -⟩ <;> decide
  omega

theorem length_of_lexeme? {c : Char} {t rest : Text} {token : Token}
    (h : lexeme? c t = some (token, rest)) : rest.length ≤ t.length := by
  unfold lexeme? at h
  split at h
  · obtain ⟨-, rfl⟩ := Prod.mk.inj (Option.some.inj h)
    exact Nat.le_refl _
  split at h
  · obtain ⟨⟨a, b⟩, h', e⟩ := Option.map_eq_some_iff.1 h
    obtain ⟨-, rfl⟩ := Prod.mk.inj e
    exact length_of_lexString? h'
  split at h
  · obtain ⟨⟨a, b⟩, h', e⟩ := Option.map_eq_some_iff.1 h
    obtain ⟨-, rfl⟩ := Prod.mk.inj e
    exact Nat.le_of_lt (length_of_lexNumber? h')
  split at h
  · obtain ⟨⟨a, b⟩, h', e⟩ := Option.map_eq_some_iff.1 h
    obtain ⟨-, rfl⟩ := Prod.mk.inj e
    exact Nat.le_of_lt_succ (length_of_lexNumber? h')
  · exact Nat.le_of_lt_succ (length_of_lexWord? h)

def lex : Text → List Token
  | [] => []
  | c :: t =>
    if isSpace c then lex t
    else
      match _found : lexeme? c t with
      | some (token, rest) => token :: lex rest
      | none => [.bad]
termination_by t => t.length
decreasing_by
  · simp
  · have := length_of_lexeme? _found
    simp only [List.length_cons]
    omega

end DocHarvest.Json
