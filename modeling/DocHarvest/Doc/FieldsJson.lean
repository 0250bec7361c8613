import DocHarvest.Doc.Fields
import DocHarvest.Json.Value

/-!
# Documented fields as JSON

The fields of a comment are one object: first the names outside the signature, under a reserved name,
then the parameters, then the collected tags.
-/

namespace DocHarvest.Doc

/-- The name under which the documented names outside the signature are written. -/
def othersName : Text := "other_param".toList

/-- An entry as JSON; what is not known is left out, but for the description. -/
def FieldDoc.toJson (doc : FieldDoc) : Json :=
  .object <|
    [("docstring".toList, Json.ofOption .text doc.docstring)] ++
    (doc.typeName.map fun t => ("type".toList, Json.text t)).toList ++
    (doc.default.map fun t => ("default".toList, Json.text t)).toList ++
    (doc.optional.map fun b => ("optional".toList, Json.bool b)).toList

def DocFields.toJson (fields : DocFields) : Json :=
  .object <|
    (othersName, .object (fields.others.entries.map fun (name, doc) => (name, doc.toJson))) ::
    (fields.params.entries.map fun (name, doc) => (name, doc.toJson)) ++
    (fields.tags.entries.map fun (keyword, docs) => (keyword, .array (docs.map FieldDoc.toJson)))

def parametersJson (parameters : Parameters) : Json :=
  .object (parameters.entries.map fun (name, typeName) => (name, .text typeName))

end DocHarvest.Doc
