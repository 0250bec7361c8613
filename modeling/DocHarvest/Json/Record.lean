import DocHarvest.Json.Error
import DocHarvest.Json.Skip
import DocHarvest.Record.Schema

/-!
# Reading records from JSON

`Schema.readJson` reads a record that is written as an object, or as the array of its values in the
order of the fields. The first thing wrong from left to right is what is reported: a field that
comes twice at its second name, missing fields at the end of the object. Unknown names are skipped.
-/

namespace DocHarvest.Json

variable {α : Type}

/-! ## Values -/

/-- What a message says of the value that begins with a token, if one does. -/
def shape? : Token → Option Shape
  | .null => some .null
  | .bool b => some (.bool b)
  | .number form => form.number?.map .number
  | .string parts => (decode? parts).map .text
  | .openArray => some .array
  | .openObject => some .object
  | .closeArray | .closeObject | .comma | .colon | .bad => none

/-- The error of a value that is not of the expected type. -/
def mismatch (token : Token) (expected : Text) : ReadError :=
  match shape? token with
  | some found => .wrongType found expected
  | none => .malformed

def readText (expected : Text) : Token → Except ReadError Text
  | .string parts =>
    match decode? parts with
    | some t => .ok t
    | none => .error .malformed
  | token => .error (mismatch token expected)

/-- Reads a truth value. -/
def readFlag : Token → Except ReadError Bool
  | .bool b => .ok b
  | token => .error (mismatch token "a boolean".toList)

/-- Reads a number below `2 ^ 64`. -/
def readCount : Token → Except ReadError Nat
  | .number form =>
    match form.number? with
    | some (.natural n) => .ok n
    | some (.negative n) => .error (.negativeCount n)
    | _ => .error (mismatch (.number form) countName)
  | token => .error (mismatch token countName)

/-- Reads a text, or `null`. -/
def readOptionalText : Token → Except ReadError (Option Text)
  | .null => .ok none
  | token => (readText "a string".toList token).map some

/-- Reads the value of a field into a record. Every value that a field may hold is one token. -/
def readSlot (slot : Slot α) (record : α) (token : Token) : Except ReadError α :=
  match slot with
  | .text put => return put (← readText "a string".toList token) record
  | .path put => return put (← readText "path string".toList token) record
  | .flag put => return put (← readFlag token) record
  | .count put => return put (← readCount token) record
  | .optionalText put => return put (← readOptionalText token) record

/-! ## Objects -/

/-- A record while it is read, and the names of the fields that were given. -/
structure Progress (α : Type) where
  record : α
  given : List String := []

def Progress.finish (schema : Schema α) (p : Progress α) : Except ReadError α :=
  match schema.fields.find? fun field => schema.complete && !p.given.contains field.name with
  | some field => .error (.missingField field.name.toList)
  | none => .ok p.record

/-- Reads the value after a name. -/
def readValue (schema : Schema α) (p : Progress α) (name : Text) (tokens : List Token) :
    Except ReadError (Progress α × List Token) :=
  match schema.field? name with
  | some field =>
    if p.given.contains field.name then .error (.duplicateField field.name.toList)
    else
      match tokens with
      | .colon :: token :: rest =>
        (readSlot field.slot p.record token).map fun record =>
          (⟨record, field.name :: p.given⟩, rest)
      | _ => .error .malformed
  | none =>
    match tokens with
    | .colon :: rest =>
      match skip? rest with
      | some rest => .ok (p, rest)
      | none => .error .malformed
    | _ => .error .malformed

theorem length_of_readValue {schema : Schema α} {p p' : Progress α} {name : Text}
    {tokens rest : List Token} (h : readValue schema p name tokens = .ok (p', rest)) :
    rest.length < tokens.length := by
  unfold readValue at h
  split at h
  · split at h
    · exact absurd h nofun
    · split at h
      · next token r =>
        cases hs : readSlot _ p.record token with
        | error e => rw [hs] at h; exact absurd h nofun
        | ok record =>
          rw [hs] at h
          obtain ⟨-, rfl⟩ := Prod.mk.inj (Except.ok.inj h)
          simp only [List.length_cons]
          omega
      · exact absurd h nofun
  · split at h
    · split at h
      · next hs =>
        obtain ⟨-, rfl⟩ := Prod.mk.inj (Except.ok.inj h)
        exact Nat.lt_succ_of_lt (length_of_skip? hs)
      · exact absurd h nofun
    · exact absurd h nofun

/-- Reads the members of an object from the first name to the end. -/
def readMembers (schema : Schema α) (p : Progress α) : List Token → Except ReadError (α × List Token)
  | .string parts :: tokens =>
    match decode? parts with
    | none => .error .malformed
    | some name =>
      match _read : readValue schema p name tokens with
      | .error e => .error e
      | .ok (p, .comma :: rest) => readMembers schema p rest
      | .ok (p, .closeObject :: rest) => (p.finish schema).map (·, rest)
      | .ok _ => .error .malformed
  | _ => .error .malformed
termination_by tokens => tokens.length
decreasing_by
  have := length_of_readValue _read
  simp only [List.length_cons] at this ⊢
  omega

/-! ## Arrays -/

/-- Reads the values of the fields that are left, after `count` others. -/
def readItems (schema : Schema α) (record : α) (count : Nat) :
    List (Field α) → List Token → Except ReadError (α × List Token)
  | [], .closeArray :: rest => .ok (record, rest)
  | [], _ => .error .malformed
  | _ :: _, .closeArray :: rest =>
    if schema.complete then
      .error (.tooShort count (schema.title.toList ++ " with ".toList ++
        Text.decimal schema.fields.length ++ " elements".toList))
    else .ok (record, rest)
  | field :: fields, tokens =>
    match if count = 0 then tokens else dropComma tokens with
    | token :: rest =>
      match readSlot field.slot record token with
      | .ok record => readItems schema record (count + 1) fields rest
      | .error e => .error e
    | [] => .error .malformed
where
  /-- What follows a comma; where there is none, nothing can be read. -/
  dropComma : List Token → List Token
    | .comma :: rest => rest
    | _ => []

/-! ## Records -/

def readRecord (schema : Schema α) : List Token → Except ReadError (α × List Token)
  | .openArray :: rest => readItems schema schema.blank 0 schema.fields rest
  | .openObject :: .closeObject :: rest =>
    (Progress.finish schema ⟨schema.blank, []⟩).map (·, rest)
  | .openObject :: rest => readMembers schema ⟨schema.blank, []⟩ rest
  | token :: _ => .error (mismatch token schema.title.toList)
  | [] => .error .malformed

end DocHarvest.Json

namespace DocHarvest

/-- Reads a record that is all of a JSON text. -/
def Schema.readJson {α : Type} (schema : Schema α) (text : Text) : Except Json.ReadError α :=
  match Json.readRecord schema (Json.lex text) with
  | .ok (record, []) => .ok record
  | .ok (_, _ :: _) => .error .malformed
  | .error e => .error e

end DocHarvest
