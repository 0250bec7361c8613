import DocHarvest.Json.Skip
import DocHarvest.Proofs.Json.Tokens
import DocHarvest.Proofs.Record.OrderedMap

/-!
# Reading values back

`parse?` reads a value from its text. It goes through the tokens once and keeps what is open around
the place it has come to; `parse?_render` : it gives back every value that was rendered.

`readMap?` reads an object as a map from names to values. A member takes the place of an earlier one
of the same name, so nothing is lost if no name repeats (`readMap?_render`).
-/

namespace DocHarvest.Json

open Text

/-! ## Reading -/

/-- An array or object that is not closed yet, with what it holds so far, the last first. -/
inductive Partial where
  | array (items : List Json)
  /-- `name` is that of the member whose value is read. -/
  | object (members : List (Text × Json)) (name : Text)

/-- A place in a text that is read. -/
inductive Reading where
  /-- Inside the value; the innermost array or object comes first. -/
  | within (around : List Partial) (expected : Expected)
  /-- Behind the value. -/
  | done (value : Json)

namespace Reading

/-- Goes on after a value. -/
def give (value : Json) : List Partial → Reading
  | [] => done value
  | .array items :: around => within (.array (value :: items) :: around) .separator
  | .object members name :: around =>
    within (.object ((name, value) :: members) [] :: around) .separator

/-- The number that digits alone stand for. -/
def natural? (form : NumberForm) : Option Nat :=
  if form.negative || form.fraction.isSome || form.exponent.isSome then none
  else some (decimalValue form.whole)

/-- Reads the first token of a value. -/
def start? (around : List Partial) : Token → Option Reading
  | .null => some (give null around)
  | .bool b => some (give (bool b) around)
  | .number form => (natural? form).map fun n => give (number n) around
  | .string parts => (decode? parts).map fun t => give (text t) around
  | .openArray => some (within (.array [] :: around) .item)
  | .openObject => some (within (.object [] [] :: around) .member)
  | _ => none

/-- Reads the name of a member. -/
def name? : List Partial → Token → Option Reading
  | .object members _ :: around, .string parts =>
    (decode? parts).map fun name => within (.object members name :: around) .colon
  | _, _ => none

/-- Reads the end of an array or object. -/
def close? : List Partial → Token → Option Reading
  | .array items :: around, .closeArray => some (give (array items.reverse) around)
  | .object members _ :: around, .closeObject => some (give (object members.reverse) around)
  | _, _ => none

/-- Reads one token. -/
def next? : Reading → Token → Option Reading
  | done _, _ => none
  | within around .value, token => start? around token
  | within around .item, .closeArray => close? around .closeArray
  | within around .item, token => start? around token
  | within around .member, .closeObject => close? around .closeObject
  | within around .member, token => name? around token
  | within around .name, token => name? around token
  | within around .colon, .colon => some (within around .value)
  | within _ .colon, _ => none
  | within (.array items :: around) .separator, .comma =>
    some (within (.array items :: around) .value)
  | within (.object members name :: around) .separator, .comma =>
    some (within (.object members name :: around) .name)
  | within around .separator, token => close? around token

end Reading

/-- The value that is all of a JSON text. Numbers have digits only. -/
def parse? (t : Text) : Option Json :=
  match (lex t).foldlM Reading.next? (.within [] .value) with
  | some (.done value) => some value
  | _ => none

/-! ## Round trip -/

theorem Reading.natural?_formOf (n : Nat) : natural? (formOf n) = some n := by
  simp [natural?, formOf, decimalValue_decimal]

theorem exists_tokens_eq_cons (j : Json) :
    ∃ token rest, tokens j = token :: rest ∧ token ≠ .closeArray := by
  cases j with
  | null => exact ⟨.null, [], rfl, nofun⟩
  | bool b => exact ⟨.bool b, [], rfl, nofun⟩
  | number n => exact ⟨.number (formOf n), [], rfl, nofun⟩
  | text t => exact ⟨.string (t.map partOf), [], rfl, nofun⟩
  | array items => exact ⟨.openArray, itemTokens items ++ [.closeArray], rfl, nofun⟩
  | object members => exact ⟨.openObject, memberTokens members ++ [.closeObject], rfl, nofun⟩

/-- The first item of an array is read like any other. -/
theorem foldlM_firstItem (around : List Partial) (item : Json) (items : List Json)
    (more : List Token) :
    (itemTokens (item :: items) ++ more).foldlM Reading.next? (.within around .item) =
      (itemTokens (item :: items) ++ more).foldlM Reading.next? (.within around .value) := by
  obtain ⟨token, rest, eq, ne⟩ : ∃ token rest,
      itemTokens (item :: items) = token :: rest ∧ token ≠ .closeArray := by
    obtain ⟨token, rest, eq, ne⟩ := exists_tokens_eq_cons item
    cases items with
    | nil => exact ⟨token, rest, eq, ne⟩
    | cons next items => exact ⟨token, _, by rw [itemTokens, eq, List.cons_append], ne⟩
  have same : Reading.next? (.within around .item) token =
      Reading.next? (.within around .value) token := by
    cases token <;> first | rfl | exact absurd rfl ne
  rw [eq, List.cons_append, List.foldlM_cons, List.foldlM_cons, same]

/-- The first name of an object is read like any other. -/
theorem foldlM_firstMember (around : List Partial) (member : Text × Json)
    (members : List (Text × Json)) (more : List Token) :
    (memberTokens (member :: members) ++ more).foldlM Reading.next? (.within around .member) =
      (memberTokens (member :: members) ++ more).foldlM Reading.next? (.within around .name) := by
  obtain ⟨name, value⟩ := member
  cases members <;> rfl

mutual

/-- The tokens of a value lead behind it. -/
theorem foldlM_tokens (j : Json) (around : List Partial) :
    (tokens j).foldlM Reading.next? (.within around .value) = some (.give j around) := by
  cases j with
  | null => rfl
  | bool b => rfl
  | number n => simp [tokens, Reading.next?, Reading.start?, Reading.natural?_formOf]
  | text t => simp [tokens, Reading.next?, Reading.start?, decode?_map_partOf]
  | array items =>
    cases items with
    | nil => rfl
    | cons item items =>
      rw [tokens, List.cons_append, List.foldlM_cons]
      simp only [Reading.next?, Reading.start?, Option.bind_eq_bind, Option.bind_some]
      rw [foldlM_firstItem, List.foldlM_append, foldlM_itemTokens (item :: items) [] around nofun]
      simp [Reading.next?, Reading.close?]
  | object members =>
    cases members with
    | nil => rfl
    | cons member members =>
      rw [tokens, List.cons_append, List.foldlM_cons]
      simp only [Reading.next?, Reading.start?, Option.bind_eq_bind, Option.bind_some]
      rw [foldlM_firstMember, List.foldlM_append,
        foldlM_memberTokens (member :: members) [] [] around nofun]
      simp [Reading.next?, Reading.close?]

theorem foldlM_itemTokens (items done : List Json) (around : List Partial) (ne : items ≠ []) :
    (itemTokens items).foldlM Reading.next? (.within (.array done :: around) .value) =
      some (.within (.array (items.reverse ++ done) :: around) .separator) := by
  match items with
  | [] => exact absurd rfl ne
  | [item] => exact foldlM_tokens item _
  | item :: next :: items =>
    rw [itemTokens, List.foldlM_append, foldlM_tokens item]
    simp only [Reading.give, Option.bind_eq_bind, Option.bind_some, List.foldlM_cons, Reading.next?]
    rw [foldlM_itemTokens (next :: items) (item :: done) around nofun]
    simp

theorem foldlM_memberTokens (members done : List (Text × Json)) (name : Text)
    (around : List Partial) (ne : members ≠ []) :
    (memberTokens members).foldlM Reading.next? (.within (.object done name :: around) .name) =
      some (.within (.object (members.reverse ++ done) [] :: around) .separator) := by
  match members with
  | [] => exact absurd rfl ne
  | [(key, value)] =>
    simp only [memberTokens, List.foldlM_cons, Reading.next?, Reading.name?, decode?_map_partOf,
      Option.map_some, Option.bind_eq_bind, Option.bind_some]
    exact foldlM_tokens value _
  | (key, value) :: next :: members =>
    simp only [memberTokens, List.foldlM_cons, List.cons_append, Reading.next?, Reading.name?,
      decode?_map_partOf, Option.map_some, Option.bind_eq_bind, Option.bind_some]
    rw [List.foldlM_append, foldlM_tokens value]
    simp only [Reading.give, Option.bind_eq_bind, Option.bind_some, List.foldlM_cons, Reading.next?]
    rw [foldlM_memberTokens (next :: members) ((key, value) :: done) [] around nofun]
    simp

end

theorem parse?_render (j : Json) : parse? (render j) = some j := by
  have cut := lex_render j [] rfl
  rw [List.append_nil, show lex [] = [] by simp [lex], List.append_nil] at cut
  unfold parse?
  rw [cut, foldlM_tokens]
  rfl

/-! ## Maps -/

/-- The names of the members of an object. -/
def names : Json → List Text
  | object members => members.map Prod.fst
  | _ => []

/-- An object as a map from names to values. -/
def map? : Json → Option (OrderedMap Json)
  | object members => some (OrderedMap.ofList members)
  | _ => none

/-- The map that a text holds. -/
def readMap? (t : Text) : Option (OrderedMap Json) := (parse? t).bind map?

theorem map?_of_nodup {members : List (Text × Json)} (h : (members.map Prod.fst).Nodup) :
    map? (object members) = some ⟨members⟩ :=
  congrArg some (OrderedMap.ofList_of_nodup h)

theorem readMap?_render {members : List (Text × Json)} (h : (members.map Prod.fst).Nodup) :
    readMap? (render (object members)) = some ⟨members⟩ := by
  rw [readMap?, parse?_render, Option.bind_some, map?_of_nodup h]

end DocHarvest.Json
