import DocHarvest.Doc.Fields
import DocHarvest.Proofs.Record.OrderedMap

/-!
# The names of documented fields

`StructuredDoc.fields` fills three maps; this module says under which names.

* `names_params_fields` : the names of the parameters are those of the signature, in order
* `nodup_names_others_fields`, `nodup_names_tags_fields` : no other name and no keyword repeats
* `mem_names_tags_fields` : the keywords are those of the tags that are collected
-/

namespace DocHarvest

namespace Doc

open Text

namespace DocTag

/-- Whether a tag goes into the list under its keyword: it may repeat and says something. -/
def isCollected (tag : DocTag) : Bool :=
  tag.kind.isRepeatable && tag.description.any (· ≠ "None".toList)

/-- What a collected tag says. -/
def resultDoc (tag : DocTag) : FieldDoc :=
  { docstring := tag.description, typeName := tag.typeName }

/-- The name that a tag of a parameter is about, without the asterisks in front of it. -/
def name? (tag : DocTag) : Option Text :=
  if tag.kind = .param then tag.argName.map (dropLeading '*') else none

/-- What the tag of a parameter says, where the signature may declare a type: it counts unless it is
blank. -/
def paramDoc (tag : DocTag) (declared : Option Text) : FieldDoc where
  docstring := tag.description
  typeName := (declared.bind nonBlank?).or tag.typeName
  default := tag.default
  optional := tag.optional

end DocTag

namespace DocFields

variable {parameters : Parameters} {fields : DocFields} {tag : DocTag}

/-- What one tag does: it is collected, says something about a parameter or about another name, or
goes by. -/
theorem addTag_cases (parameters : Parameters) (fields : DocFields) (tag : DocTag) :
    (tag.isCollected = true ∧ tag.name? = none ∧
      addTag parameters fields tag = fields.pushTag tag.keyword tag.resultDoc) ∨
    tag.isCollected = false ∧
      ((∃ name declared, tag.name? = some name ∧ parameters.get? name = some declared ∧
        addTag parameters fields tag =
          { fields with params := fields.params.insert name (tag.paramDoc (some declared)) }) ∨
      (∃ name, tag.name? = some name ∧ parameters.get? name = none ∧
        addTag parameters fields tag =
          { fields with others := fields.others.insert name (tag.paramDoc none) }) ∨
      tag.name? = none ∧ addTag parameters fields tag = fields) := by
  unfold addTag DocTag.isCollected DocTag.name?
  cases tag.kind with
  | param =>
    refine .inr ⟨rfl, ?_⟩
    cases tag.argName with
    | none => exact .inr (.inr ⟨rfl, rfl⟩)
    | some argName =>
      cases hg : parameters.get? (dropLeading '*' argName) with
      | some declared => exact .inl ⟨_, declared, rfl, hg, by simp only [hg]; rfl⟩
      | none => exact .inr (.inl ⟨_, rfl, hg, by simp only [hg]; rfl⟩)
  | other => exact .inr ⟨rfl, .inr (.inr ⟨rfl, rfl⟩)⟩
  | returns | raises | yields =>
    cases hd : tag.description with
    | none => exact .inr ⟨rfl, .inr (.inr ⟨rfl, rfl⟩)⟩
    | some description =>
      by_cases h : description = "None".toList
      · exact .inr ⟨by simp [h], .inr (.inr ⟨rfl, if_pos h⟩)⟩
      · refine .inl ⟨by simpa [TagKind.isRepeatable] using h, rfl, ?_⟩
        rw [DocTag.resultDoc, hd]
        exact if_neg h

theorem names_params_addTag (h : fields.params.names = parameters.names) :
    (addTag parameters fields tag).params.names = parameters.names := by
  rcases addTag_cases parameters fields tag with
    ⟨-, -, e⟩ | ⟨-, ⟨name, declared, -, hg, e⟩ | ⟨name, -, -, e⟩ | ⟨-, e⟩⟩
  · rw [e]; exact h
  · have known : name ∈ fields.params.names := h ▸ OrderedMap.mem_names_of_get? hg
    rw [e, OrderedMap.names_insert_of_mem _ known, h]
  · rw [e]; exact h
  · rw [e]; exact h

theorem nodup_names_others_addTag (h : fields.others.names.Nodup) :
    (addTag parameters fields tag).others.names.Nodup := by
  rcases addTag_cases parameters fields tag with
    ⟨-, -, e⟩ | ⟨-, ⟨name, declared, -, -, e⟩ | ⟨name, -, -, e⟩ | ⟨-, e⟩⟩
  · rw [e]; exact h
  · rw [e]; exact h
  · rw [e]; exact OrderedMap.nodup_names_insert h name _
  · rw [e]; exact h

theorem nodup_names_tags_addTag (h : fields.tags.names.Nodup) :
    (addTag parameters fields tag).tags.names.Nodup := by
  rcases addTag_cases parameters fields tag with
    ⟨-, -, e⟩ | ⟨-, ⟨name, declared, -, -, e⟩ | ⟨name, -, -, e⟩ | ⟨-, e⟩⟩
  · rw [e]; exact OrderedMap.nodup_names_insert h _ _
  · rw [e]; exact h
  · rw [e]; exact h
  · rw [e]; exact h

theorem mem_names_tags_addTag {keyword : Text} :
    keyword ∈ (addTag parameters fields tag).tags.names ↔
      keyword ∈ fields.tags.names ∨ tag.isCollected = true ∧ tag.keyword = keyword := by
  rcases addTag_cases parameters fields tag with
    ⟨hc, -, e⟩ | ⟨hc, ⟨name, declared, -, -, e⟩ | ⟨name, -, -, e⟩ | ⟨-, e⟩⟩
  · rw [e, pushTag, OrderedMap.mem_names_insert]
    simp [hc, eq_comm]
  · simp [e, hc]
  · simp [e, hc]
  · simp [e, hc]

end DocFields

namespace StructuredDoc

variable (doc : StructuredDoc) (parameters : Parameters)

/-- What holds of the empty fields and is kept by every tag holds of the fields of a comment. -/
theorem fields_induction {P : DocFields → Prop} (start : P (DocFields.ofParameters parameters))
    (step : ∀ fields tag, P fields → P (DocFields.addTag parameters fields tag)) :
    P (doc.fields parameters) := by
  unfold fields
  generalize DocFields.ofParameters parameters = fields at start ⊢
  induction doc.tags generalizing fields with
  | nil => exact start
  | cons tag tags ih => exact ih _ (step fields tag start)

theorem names_params_fields : (doc.fields parameters).params.names = parameters.names :=
  doc.fields_induction parameters (P := fun fields => fields.params.names = parameters.names)
    (by simp [DocFields.ofParameters, OrderedMap.names])
    fun _ _ h => DocFields.names_params_addTag h

theorem nodup_names_others_fields : (doc.fields parameters).others.names.Nodup :=
  doc.fields_induction parameters (P := fun fields => fields.others.names.Nodup)
    List.nodup_nil fun _ _ h => DocFields.nodup_names_others_addTag h

theorem nodup_names_tags_fields : (doc.fields parameters).tags.names.Nodup :=
  doc.fields_induction parameters (P := fun fields => fields.tags.names.Nodup)
    List.nodup_nil fun _ _ h => DocFields.nodup_names_tags_addTag h

theorem mem_names_tags_fields {keyword : Text} :
    keyword ∈ (doc.fields parameters).tags.names ↔
      ∃ tag ∈ doc.tags, tag.isCollected = true ∧ tag.keyword = keyword := by
  unfold fields
  suffices all : ∀ (tags : List DocTag) (fields : DocFields),
      keyword ∈ (tags.foldl (DocFields.addTag parameters) fields).tags.names ↔
        keyword ∈ fields.tags.names ∨
          ∃ tag ∈ tags, tag.isCollected = true ∧ tag.keyword = keyword by
    rw [all]
    simp [DocFields.ofParameters, OrderedMap.names]
  intro tags
  induction tags with
  | nil => simp
  | cons tag tags ih =>
    intro fields
    rw [List.foldl_cons, ih, DocFields.mem_names_tags_addTag]
    simp [or_assoc]

end StructuredDoc

end Doc

end DocHarvest
