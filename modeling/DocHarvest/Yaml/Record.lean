import DocHarvest.Record.Schema
import DocHarvest.Yaml.Node

/-!
# Reading records from YAML

`Schema.readYaml?` reads a record that is written as a mapping. Every scalar reads as a text, in
whatever form it is written; numbers and truth values must be plain, or literal blocks with the tag of
their kind. A document without content is a mapping without pairs.
-/

namespace DocHarvest.Yaml

variable {α : Type}

/-! ## Scalars -/

def Node.text? : Node → Option Text
  | scalar _ _ text => some text
  | _ => none

/-- The tags of scalars that say what they stand for. -/
def standardTag (kind : String) : Bytes := Text.toBytes ("tag:yaml.org,2002:" ++ kind).toList

/-- The text of a scalar that can stand for a value other than a text: it is plain, or a literal block
with the tag of the kind. -/
def Node.valueText? (kind : String) : Node → Option Text
  | scalar .plain _ text => some text
  | scalar .literal (some tag) text => if tag = standardTag kind then some text else none
  | _ => none

def beginsSigned (t : Text) : Bool := t.head? = some '+' || t.head? = some '-'

/-- The value of digits in some base, if it is below `Text.countLimit`. -/
def digits? (base : Nat) (t : Text) : Option Nat := do
  if t.isEmpty then none
  else
    let n ← t.foldlM (fun n c => do
      let d ← Text.hexValue? c
      if d < base then some (n * base + d) else none) 0
    if n < Text.countLimit then some n else none

/-- The bases that are announced by a letter behind a zero. -/
def letterBases : List (Text × Nat) := [("0x".toList, 16), ("0o".toList, 8), ("0b".toList, 2)]

/-- The number that a plain scalar stands for. A leading zero is only allowed alone. -/
def count? (t : Text) : Option Nat :=
  let unsigned := (Text.dropLead? ['+'] t).getD t
  match letterBases.findSome? fun (lead, base) => (Text.dropLead? lead unsigned).bind (digits? base) with
  | some n => some n
  | none =>
    if beginsSigned unsigned || (unsigned.head? = some '0' && unsigned.length ≠ 1) then none
    else digits? 10 unsigned

/-- The truth value that a plain scalar stands for. -/
def flag? (t : Text) : Option Bool :=
  if ["true", "True", "TRUE"].any (·.toList = t) then some true
  else if ["false", "False", "FALSE"].any (·.toList = t) then some false
  else none

/-- Whether a plain scalar says that there is nothing. -/
def isNullWord (t : Text) : Bool := ["null", "Null", "NULL", "~"].any (·.toList = t)

/-- The text of a scalar, or nothing for an empty plain one and one that says so. A tag other than
that for nothing makes every scalar a text. -/
def optionalText? : Node → Option (Option Text)
  | .scalar .plain none text => some (if text.isEmpty || isNullWord text then none else some text)
  | .scalar .plain (some tag) text =>
    if tag ≠ standardTag "null" then some (some text) else if isNullWord text then some none else none
  | .scalar _ _ text => some (some text)
  | _ => none

/-! ## Records -/

/-- Reads the value of a field into a record. -/
def readSlot? (slot : Slot α) (record : α) (node : Node) : Option α :=
  match slot with
  | .text put | .path put => node.text?.map fun t => put t record
  | .flag put => ((node.valueText? "bool").bind flag?).map fun b => put b record
  | .count put => ((node.valueText? "int").bind count?).map fun n => put n record
  | .optionalText put => (optionalText? node).map fun t => put t record

/-- Reads the pairs of a mapping in a document; `given` holds the names of the fields that were given.
Pairs with unknown names are passed over. -/
def readPairs? (schema : Schema α) (d : Document) (record : α) (given : List String) :
    List (Node × Node) → Option α
  | [] =>
    if schema.complete && !schema.fields.all fun field => given.contains field.name then none
    else some record
  | (key, value) :: pairs => do
    let name ← (d.target key).text?
    match schema.field? name with
    | none => readPairs? schema d record given pairs
    | some field =>
      if given.contains field.name then none
      else
        let record ← readSlot? field.slot record (d.target value)
        readPairs? schema d record (field.name :: given) pairs

def readRecord? (schema : Schema α) (d : Document) : Option α :=
  match d.root with
  | .mapping pairs => readPairs? schema d schema.blank [] pairs
  | .scalar .plain _ [] => readPairs? schema d schema.blank [] []
  | _ => none

end DocHarvest.Yaml

namespace DocHarvest

/-- Reads the record that is the only document of a YAML text. -/
def Schema.readYaml? {α : Type} (schema : Schema α) (text : Text) : Option α :=
  (Yaml.document? text).bind (Yaml.readRecord? schema)

end DocHarvest
