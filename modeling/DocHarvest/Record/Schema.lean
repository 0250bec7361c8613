import DocHarvest.Text.Basic

/-!
# Schemas of records

A `Schema` says which fields a record has, what each may hold, and whether all of them must be given.
It does not depend on the format in which the record is written. Reading starts from the record
`blank` and puts in one value after another.
-/

namespace DocHarvest

/-- What a field may hold, and how a value is put into the record. -/
inductive Slot (α : Type) where
  | text (put : Text → α → α)
  | path (put : Text → α → α)
  | flag (put : Bool → α → α)
  /-- A number below `2 ^ 64`. -/
  | count (put : Nat → α → α)
  | optionalText (put : Option Text → α → α)

/-- A field of a record, with other names that it answers to. -/
structure Field (α : Type) where
  name : String
  aliases : List String := []
  slot : Slot α

/-- The fields of a record. -/
structure Schema (α : Type) where
  /-- The name of the kind of record. -/
  title : String
  /-- The fields, in the order in which they are declared. -/
  fields : List (Field α)
  /-- The record before any value is read. -/
  blank : α
  /-- Whether every field must be given; otherwise a missing one stays as it is in `blank`. -/
  complete : Bool

variable {α : Type}

def Field.isCalled (field : Field α) (name : Text) : Bool :=
  (field.name :: field.aliases).any (·.toList = name)

/-- The field that answers to a name. -/
def Schema.field? (schema : Schema α) (name : Text) : Option (Field α) :=
  schema.fields.find? (·.isCalled name)

end DocHarvest
