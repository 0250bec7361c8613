import DocHarvest.Doc.FieldsJson
import DocHarvest.Proofs.Doc.Fields
import DocHarvest.Proofs.Json.Reading
import DocHarvest.Proofs.Traversal

/-!
# Documented fields read back

The fields of a comment are one object with three kinds of members. `StructuredDoc.IsApart` : no
parameter has the name of another member. `isReadBack_iff` : this is just when no name repeats in
the object; then all entries come back from its text.
-/

namespace DocHarvest

open Text Doc

/-! ## One entry -/

namespace Json

/-- A text. -/
def text? : Json → Option Text
  | text t => some t
  | _ => none

/-- A truth value. -/
def bool? : Json → Option Bool
  | bool b => some b
  | _ => none

/-- The items of an array. -/
def items? : Json → Option (List Json)
  | array items => some items
  | _ => none

/-- A text, or `null`. -/
def textOrNull? : Json → Option (Option Text)
  | null => some none
  | text t => some (some t)
  | _ => none

end Json

namespace Doc

/-- An entry from its members. -/
def FieldDoc.ofJson? (j : Json) : Option FieldDoc := do
  let m ← j.map?
  let docstring ← (← m.get? "docstring".toList).textOrNull?
  return {
    docstring
    typeName := (m.get? "type".toList).bind Json.text?
    default := (m.get? "default".toList).bind Json.text?
    optional := (m.get? "optional".toList).bind Json.bool? }

/-- A list of entries. -/
def FieldDoc.listOfJson? (j : Json) : Option (List FieldDoc) :=
  j.items?.bind fun items => items.mapM ofJson?

theorem FieldDoc.ofJson?_toJson (doc : FieldDoc) : ofJson? doc.toJson = some doc := by
  obtain ⟨docstring, typeName, default, optional⟩ := doc
  cases docstring <;> cases typeName <;> cases default <;> cases optional <;> rfl

theorem FieldDoc.listOfJson?_array (docs : List FieldDoc) :
    listOfJson? (.array (docs.map toJson)) = some docs :=
  mapM_map_eq_some fun doc _ => ofJson?_toJson doc

/-! ## The whole object -/

/-- No parameter has the reserved name or the keyword of a collected tag. -/
def StructuredDoc.IsApart (doc : StructuredDoc) (parameters : Parameters) : Prop :=
  othersName ∉ parameters.names ∧
    ∀ tag ∈ doc.tags, tag.isCollected = true → tag.keyword ∉ parameters.names

namespace DocFields

/-- Every entry of the fields is found in a map. -/
structure IsReadFrom (fields : DocFields) (m : OrderedMap Json) : Prop where
  params : ∀ {name : Text} {doc : FieldDoc}, fields.params.get? name = some doc →
    (m.get? name).bind FieldDoc.ofJson? = some doc
  others : ∃ others, (m.get? othersName).bind Json.map? = some others ∧
    ∀ name, (others.get? name).bind FieldDoc.ofJson? = fields.others.get? name
  tags : ∀ {keyword : Text} {docs : List FieldDoc}, fields.tags.get? keyword = some docs →
    (m.get? keyword).bind FieldDoc.listOfJson? = some docs

/-- No name repeats in the object of the fields nor in that of the names outside the signature, and
all entries come back from the text of the object. -/
structure IsReadBack (fields : DocFields) : Prop where
  nodup_names : fields.toJson.names.Nodup
  nodup_others : ∀ {others : Json} {members : List (Text × Json)},
    fields.toJson = .object ((othersName, others) :: members) → others.names.Nodup
  read : ∃ m, Json.readMap? fields.toJson.render = some m ∧ fields.IsReadFrom m

variable {fields : DocFields}

theorem names_toJson (fields : DocFields) :
    fields.toJson.names = othersName :: (fields.params.names ++ fields.tags.names) := by
  simp [toJson, Json.names, OrderedMap.names, Function.comp_def]

theorem nodup_names_othersJson (h : fields.others.names.Nodup) {others : Json}
    {members : List (Text × Json)}
    (eq : fields.toJson = .object ((othersName, others) :: members)) :
    others.names.Nodup := by
  obtain ⟨head, -⟩ := List.cons.inj (Json.object.inj eq)
  obtain rfl := (Prod.mk.inj head).2
  simpa [Json.names, OrderedMap.names, Function.comp_def] using h

theorem isReadFrom_of_nodup (h : fields.others.names.Nodup)
    (distinct : fields.toJson.names.Nodup) {members : List (Text × Json)}
    (eq : fields.toJson = .object members) : fields.IsReadFrom ⟨members⟩ := by
  obtain rfl := Json.object.inj eq
  refine { params := ?_, others := ?_, tags := ?_ }
  · intro name doc hp
    have mem := List.mem_map_of_mem (f := fun e => (e.1, FieldDoc.toJson e.2))
      (OrderedMap.mem_of_get? hp)
    rw [OrderedMap.get?_of_mem distinct (List.mem_append_left _ (List.mem_cons_of_mem _ mem)),
      Option.bind_some, FieldDoc.ofJson?_toJson]
  · have map := Json.map?_of_nodup (nodup_names_othersJson h eq)
    refine ⟨_, by rw [OrderedMap.get?_of_mem distinct List.mem_cons_self]; exact map, ?_⟩
    intro name
    rw [OrderedMap.get?_map]
    cases fields.others.get? name with
    | none => rfl
    | some doc => exact FieldDoc.ofJson?_toJson doc
  · intro keyword docs ht
    have mem := List.mem_map_of_mem
      (f := fun e => (e.1, Json.array (e.2.map FieldDoc.toJson)))
      (OrderedMap.mem_of_get? ht)
    rw [OrderedMap.get?_of_mem distinct (List.mem_append_right _ mem), Option.bind_some,
      FieldDoc.listOfJson?_array]

end DocFields

namespace StructuredDoc

theorem othersName_not_mem_names_tags (doc : StructuredDoc) (parameters : Parameters) :
    othersName ∉ (doc.fields parameters).tags.names := by
  intro mem
  obtain ⟨tag, -, collected, keyword⟩ := (doc.mem_names_tags_fields parameters).1 mem
  have other : tag.kind.isRepeatable = false := by rw [DocTag.kind, keyword]; decide
  rw [DocTag.isCollected, other] at collected
  exact absurd collected nofun

/-- The names in the object are distinct just if no parameter takes one of the others. -/
theorem nodup_names_toJson_iff (doc : StructuredDoc) {parameters : Parameters}
    (h : parameters.names.Nodup) :
    (doc.fields parameters).toJson.names.Nodup ↔ doc.IsApart parameters := by
  rw [DocFields.names_toJson, List.nodup_cons, List.mem_append, not_or, List.nodup_append,
    doc.names_params_fields]
  constructor
  · rintro ⟨⟨reserved, -⟩, -, -, apart⟩
    refine ⟨reserved, fun tag ht collected mem => ?_⟩
    exact apart _ mem _ ((doc.mem_names_tags_fields _).2 ⟨tag, ht, collected, rfl⟩) rfl
  · rintro ⟨reserved, apart⟩
    refine ⟨⟨reserved, doc.othersName_not_mem_names_tags _⟩, h, doc.nodup_names_tags_fields _, ?_⟩
    rintro name mem keyword hk rfl
    obtain ⟨tag, ht, collected, rfl⟩ := (doc.mem_names_tags_fields _).1 hk
    exact apart tag ht collected mem

/-- The fields come back from their text just if no parameter has the reserved name or the keyword
of a collected tag. -/
theorem isReadBack_iff (doc : StructuredDoc) (pairs : List (Text × Text)) :
    (doc.fields (OrderedMap.ofList pairs)).IsReadBack ↔ doc.IsApart (OrderedMap.ofList pairs) := by
  have distinct := OrderedMap.nodup_names_ofList pairs
  generalize OrderedMap.ofList pairs = parameters at distinct ⊢
  have others := doc.nodup_names_others_fields parameters
  rw [← doc.nodup_names_toJson_iff distinct]
  constructor
  · exact fun h => h.nodup_names
  · intro h
    exact {
      nodup_names := h
      nodup_others := DocFields.nodup_names_othersJson others
      read := ⟨_, Json.readMap?_render h, DocFields.isReadFrom_of_nodup others h rfl⟩ }

/-- A comment that documents a name outside the signature. -/
def ghost : StructuredDoc :=
  { tags := [{
      keyword := "param".toList
      argName := some ['z']
      description := some "ghost".toList }] }

/-- Beside a parameter with the reserved name, what is documented outside the signature is lost. -/
theorem not_isReadBack_ghost :
    let fields := ghost.fields (OrderedMap.ofList [(othersName, "int".toList)])
    ¬fields.IsReadBack ∧ fields.others.contains ['z'] = true ∧
      ((Json.readMap? fields.toJson.render).bind (·.get? othersName)).bind Json.map? =
        some (OrderedMap.ofList [("docstring".toList, .null)]) := by
  refine ⟨fun h => ?_, rfl, ?_⟩
  · have := h.nodup_names
    revert this
    decide
  · rw [Json.readMap?, Json.parse?_render]
    rfl

end StructuredDoc

end Doc

end DocHarvest
