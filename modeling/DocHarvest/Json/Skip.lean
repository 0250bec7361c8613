import DocHarvest.Json.Token

/-!
# Skipping a value

A value that nobody asks for is skipped with a record of the arrays and objects that are open. It
must be well formed, but its strings need not stand for a text and its numbers may be of any size.

* `length_of_skip?` : skipping takes at least one token
-/

namespace DocHarvest.Json

/-- What is open around a place in a value. -/
inductive Frame where
  | array
  | object
deriving DecidableEq

/-- What may stand at a place in a value. -/
inductive Expected where
  | value
  /-- The first item of an array, or its end. -/
  | item
  /-- The first name of an object, or its end. -/
  | member
  /-- A name after a comma. -/
  | name
  | colon
  /-- A comma or the end of what is open. -/
  | separator
deriving DecidableEq

/-- What is open and what is expected after a token. -/
def step : List Frame → Expected → Token → Option (List Frame × Expected)
  | frames, .value, .null | frames, .item, .null => some (frames, .separator)
  | frames, .value, .bool _ | frames, .item, .bool _ => some (frames, .separator)
  | frames, .value, .number _ | frames, .item, .number _ => some (frames, .separator)
  | frames, .value, .string _ | frames, .item, .string _ => some (frames, .separator)
  | frames, .value, .openArray | frames, .item, .openArray => some (.array :: frames, .item)
  | frames, .value, .openObject | frames, .item, .openObject => some (.object :: frames, .member)
  | .array :: frames, .item, .closeArray => some (frames, .separator)
  | .object :: frames, .member, .closeObject => some (frames, .separator)
  | frames, .member, .string _ | frames, .name, .string _ => some (frames, .colon)
  | frames, .colon, .colon => some (frames, .value)
  | .array :: frames, .separator, .comma => some (.array :: frames, .value)
  | .object :: frames, .separator, .comma => some (.object :: frames, .name)
  | .array :: frames, .separator, .closeArray => some (frames, .separator)
  | .object :: frames, .separator, .closeObject => some (frames, .separator)
  | _, _, _ => none

/-- Goes on with a value until nothing is open any more. -/
def skipOpen? (frames : List Frame) (expected : Expected) : List Token → Option (List Token)
  | [] => none
  | token :: rest =>
    match step frames expected token with
    | none => none
    | some ([], .separator) => some rest
    | some (frames, expected) => skipOpen? frames expected rest

/-- What follows the value at the front. -/
def skip? (tokens : List Token) : Option (List Token) := skipOpen? [] .value tokens

theorem length_of_skip? {tokens rest : List Token} (h : skip? tokens = some rest) :
    rest.length < tokens.length := by
  suffices all : ∀ frames expected, skipOpen? frames expected tokens = some rest →
      rest.length < tokens.length from all _ _ h
  clear h
  induction tokens with
  | nil => exact fun _ _ h => absurd h nofun
  | cons token tokens ih =>
    intro frames expected h
    unfold skipOpen? at h
    split at h
    · exact absurd h nofun
    · obtain rfl := Option.some.inj h
      simp
    · exact Nat.lt_succ_of_lt (ih _ _ h)

end DocHarvest.Json
