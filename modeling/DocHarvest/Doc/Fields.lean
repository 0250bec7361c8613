import DocHarvest.Doc.StructuredDoc
import DocHarvest.Record.OrderedMap

/-!
# Documented fields of a signature

`StructuredDoc.fields` matches the tags of a comment with the parameters of the signature: every
parameter has an entry, names outside the signature are kept apart, and tags that may repeat are
collected under their keywords.
-/

namespace DocHarvest.Doc

open Text

/-- What is documented about one parameter or by one tag. -/
structure FieldDoc where
  docstring : Option Text := none
  typeName : Option Text := none
  default : Option Text := none
  optional : Option Bool := none
deriving DecidableEq

/-- The documented fields of a comment. -/
structure DocFields where
  /-- One entry for every parameter of the signature. -/
  params : OrderedMap FieldDoc := {}
  /-- Documented names that the signature does not have. -/
  others : OrderedMap FieldDoc := {}
  /-- Tags that may repeat, under their keywords as written. -/
  tags : OrderedMap (List FieldDoc) := {}
deriving DecidableEq

namespace DocFields

/-- An empty entry for every parameter. -/
def ofParameters (parameters : Parameters) : DocFields :=
  { params := ⟨parameters.names.map fun name => (name, {})⟩ }

def pushTag (fields : DocFields) (keyword : Text) (doc : FieldDoc) : DocFields :=
  let known := (fields.tags.get? keyword).getD []
  { fields with tags := fields.tags.insert keyword (known ++ [doc]) }

/-- The fields with one more tag matched against the signature. A declared type counts more than a
documented one. A tag that may repeat and has nothing to say is left out. -/
def addTag (parameters : Parameters) (fields : DocFields) (tag : DocTag) : DocFields :=
  match tag.kind with
  | .param =>
    match tag.argName with
    | none => fields
    | some argName =>
      let name := dropLeading '*' argName
      let doc : FieldDoc := ⟨tag.description, tag.typeName, tag.default, tag.optional⟩
      match parameters.get? name with
      | some declared =>
        let doc := { doc with typeName := (nonBlank? declared).or doc.typeName }
        { fields with params := fields.params.insert name doc }
      | none => { fields with others := fields.others.insert name doc }
  | .returns | .raises | .yields =>
    match tag.description with
    | none => fields
    | some description =>
      if description = "None".toList then fields
      else fields.pushTag tag.keyword { docstring := some description, typeName := tag.typeName }
  | .other => fields

end DocFields

/-- The tags of a comment matched against a signature. -/
def StructuredDoc.fields (doc : StructuredDoc) (parameters : Parameters) : DocFields :=
  doc.tags.foldl (DocFields.addTag parameters) (DocFields.ofParameters parameters)

end DocHarvest.Doc
