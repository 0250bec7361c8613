import DocHarvest.Decimal.Notation
import DocHarvest.Json.Number
import DocHarvest.Json.Value
import DocHarvest.Text.Quoted

/-!
# Why a record cannot be read from JSON

A `ReadError` is either that the text is not JSON, or what is wrong with the record; `message` words
it. The `Shape` of a value is what a message says was found.
-/

namespace DocHarvest.Json

/-- What a message says of a value. -/
inductive Shape where
  | null
  | bool (b : Bool)
  | number (n : Number)
  | text (t : Text)
  | array
  | object
deriving DecidableEq

/-- Why a record cannot be read. -/
inductive ReadError where
  /-- The text is not JSON. -/
  | malformed
  /-- A value is not of the expected type. -/
  | wrongType (found : Shape) (expected : Text)
  /-- The value is `-n` where a count is expected. -/
  | negativeCount (n : Nat)
  /-- An array does not hold every field of the record. -/
  | tooShort (length : Nat) (expected : Text)
  | missingField (name : Text)
  | duplicateField (name : Text)
deriving DecidableEq

/-- Numbers in messages are written without an exponent from `10 ^ -5` to below `10 ^ 16`, and never as
whole numbers. -/
def floatLayout : Decimal.Layout where
  leastFixed := -5
  greatestFixed := 15
  positiveSign := ['+']
  wholeMark := ".0".toList

/-- A piece of JSON inside a message. -/
def ticked (t : Text) : Text := '\x60' :: t ++ ['\x60']

def Number.describe : Number → Text
  | natural n => "integer ".toList ++ ticked (Text.decimal n)
  | negative n => "integer ".toList ++ ticked ('-' :: Text.decimal n)
  | float bits => "floating point ".toList ++ ticked (Decimal.render floatLayout bits)

/-- The words for a value. -/
def Shape.describe : Shape → Text
  | null => "null".toList
  | bool b => "boolean ".toList ++ ticked (if b then "true".toList else "false".toList)
  | number n => n.describe
  | text t => "string ".toList ++ t.quoted
  | array => "sequence".toList
  | object => "map".toList

def countName : Text := "usize".toList

def ReadError.message : ReadError → Text
  | malformed => "invalid JSON".toList
  | wrongType found expected =>
    "invalid type: ".toList ++ found.describe ++ ", expected ".toList ++ expected
  | negativeCount n =>
    "invalid value: ".toList ++ (Number.negative n).describe ++ ", expected ".toList ++ countName
  | tooShort length expected =>
    "invalid length ".toList ++ Text.decimal length ++ ", expected ".toList ++ expected
  | missingField name => "missing field ".toList ++ ticked name
  | duplicateField name => "duplicate field ".toList ++ ticked name

end DocHarvest.Json
