import DocHarvest.Proofs.Doc.Fields

/-!
# What the fields of a comment hold

`DocFields.AreOf` says of fields that they are those of some tags: the parameters of the signature
and the other names with what the last tag about each of them says, and the keywords with what all
their collected tags say. A tag more keeps that (`AreOf.addTag`), so the fields of a comment are those
of its tags (`areOf_fields`).
-/

namespace DocHarvest.Doc

open Text

/-! ## What tags say together -/

/-- The last tag about a name. -/
def lastAbout? (tags : List DocTag) (name : Text) : Option DocTag :=
  tags.reverse.find? fun tag => tag.name? = some name

/-- The names that tags are about and that the signature does not have, as often as they come. -/
def otherNames (parameters : Parameters) (tags : List DocTag) : List Text :=
  (tags.filterMap DocTag.name?).filter (!parameters.contains ·)

/-- The keywords of the collected tags, as often as they come. -/
def collectedKeywords (tags : List DocTag) : List Text :=
  (tags.filter DocTag.isCollected).map DocTag.keyword

/-- What the collected tags with a keyword say, in order. -/
def collectedDocs (tags : List DocTag) (keyword : Text) : List FieldDoc :=
  (tags.filter fun tag => tag.isCollected && tag.keyword = keyword).map DocTag.resultDoc

theorem lastAbout?_concat (tags : List DocTag) (tag : DocTag) (name : Text) :
    lastAbout? (tags ++ [tag]) name =
      if tag.name? = some name then some tag else lastAbout? tags name := by
  rw [lastAbout?, List.reverse_append, List.reverse_singleton, List.singleton_append,
    List.find?_cons]
  by_cases h : tag.name? = some name
  · simp [h]
  · simp [h, lastAbout?]

theorem otherNames_concat (parameters : Parameters) (tags : List DocTag) (tag : DocTag) :
    otherNames parameters (tags ++ [tag]) =
      otherNames parameters tags ++ tag.name?.toList.filter (!parameters.contains ·) := by
  rw [otherNames, List.filterMap_append, List.filter_append, otherNames]
  cases h : tag.name? <;> simp [h]

theorem collectedKeywords_concat (tags : List DocTag) (tag : DocTag) :
    collectedKeywords (tags ++ [tag]) =
      collectedKeywords tags ++ if tag.isCollected then [tag.keyword] else [] := by
  rw [collectedKeywords, List.filter_append, List.map_append, collectedKeywords]
  cases h : tag.isCollected <;> simp [h]

theorem collectedDocs_concat (tags : List DocTag) (tag : DocTag) (keyword : Text) :
    collectedDocs (tags ++ [tag]) keyword =
      collectedDocs tags keyword ++
        if tag.isCollected && tag.keyword = keyword then [tag.resultDoc] else [] := by
  rw [collectedDocs, List.filter_append, List.map_append, collectedDocs]
  cases h : tag.isCollected && decide (tag.keyword = keyword) <;> simp [h]

section
variable (parameters : Parameters) (tags : List DocTag) {tag : DocTag}

/-- A tag about no name leaves what is said about names as it is. -/
theorem about_concat_of_name? (hn : tag.name? = none) :
    (∀ name, lastAbout? (tags ++ [tag]) name = lastAbout? tags name) ∧
      otherNames parameters (tags ++ [tag]) = otherNames parameters tags := by
  constructor
  · intro name
    simp [lastAbout?_concat, hn]
  · simp [otherNames_concat, hn]

/-- A tag that is not collected leaves what the collected ones say as it is. -/
theorem collected_concat_of_not (hc : tag.isCollected = false) :
    (∀ keyword, collectedDocs (tags ++ [tag]) keyword = collectedDocs tags keyword) ∧
      collectedKeywords (tags ++ [tag]) = collectedKeywords tags := by
  constructor
  · intro keyword
    simp [collectedDocs_concat, hc]
  · simp [collectedKeywords_concat, hc]

end

/-! ## One tag more -/

namespace DocFields

/-- Fields that are those of some tags for a signature. -/
structure AreOf (fields : DocFields) (tags : List DocTag) (parameters : Parameters) : Prop where
  names_params : fields.params.names = parameters.names
  /-- The last tag about a parameter counts; without one its entry is empty. -/
  params : ∀ name, fields.params.get? name = (parameters.get? name).map fun declared =>
    (lastAbout? tags name).elim {} (·.paramDoc (some declared))
  names_others : fields.others.names = (otherNames parameters tags).eraseDups
  /-- The last tag about another name counts. -/
  others : ∀ name, fields.others.get? name =
    if parameters.contains name then none else (lastAbout? tags name).map (·.paramDoc none)
  names_tags : fields.tags.names = (collectedKeywords tags).eraseDups
  /-- All tags with a keyword count. -/
  collected : ∀ keyword, fields.tags.get? keyword =
    if collectedDocs tags keyword = [] then none else some (collectedDocs tags keyword)

theorem areOf_ofParameters (parameters : Parameters) :
    (ofParameters parameters).AreOf [] parameters where
  names_params := by simp [ofParameters, OrderedMap.names]
  params name := by
    have entries := OrderedMap.get?_map parameters (fun _ => ({} : FieldDoc)) name
    simpa [ofParameters, OrderedMap.names, Function.comp_def, lastAbout?] using entries
  names_others := rfl
  others name := by
    show none = _
    split <;> rfl
  names_tags := rfl
  collected _ := rfl

namespace AreOf

variable {parameters : Parameters} {fields : DocFields} {tags : List DocTag} {tag : DocTag}

/-- A collected tag goes to the end of the list under its keyword. -/
theorem pushTag (h : fields.AreOf tags parameters) (hc : tag.isCollected = true)
    (hn : tag.name? = none) :
    (fields.pushTag tag.keyword tag.resultDoc).AreOf (tags ++ [tag]) parameters := by
  obtain ⟨about, names⟩ := about_concat_of_name? parameters tags hn
  refine {
    names_params := h.names_params, names_others := names ▸ h.names_others
    params := fun name => by rw [about]; exact h.params name
    others := fun name => by rw [about]; exact h.others name
    names_tags := ?_, collected := fun keyword => ?_ }
  · rw [collectedKeywords_concat, if_pos hc]
    exact OrderedMap.names_insert_of_eq_eraseDups h.names_tags _ _
  · rw [DocFields.pushTag, OrderedMap.get?_insert, h.collected, h.collected, collectedDocs_concat]
    by_cases same : tag.keyword = keyword
    · subst same
      by_cases first : collectedDocs tags tag.keyword = []
      · simp [hc, first]
      · simp [hc, first]
    · simp [same]

/-- What a tag says about a parameter takes the place of what was said before. -/
theorem insert_param (h : fields.AreOf tags parameters) (hc : tag.isCollected = false)
    {name declared : Text} (hn : tag.name? = some name)
    (hg : parameters.get? name = some declared) :
    AreOf { fields with params := fields.params.insert name (tag.paramDoc (some declared)) }
      (tags ++ [tag]) parameters := by
  have known : parameters.contains name = true := by simp [OrderedMap.contains, hg]
  obtain ⟨docs, keywords⟩ := collected_concat_of_not tags hc
  refine {
    names_params := ?_, params := fun other => ?_, names_others := ?_, others := fun other => ?_
    names_tags := keywords ▸ h.names_tags
    collected := fun keyword => by rw [docs]; exact h.collected keyword }
  · have mem : name ∈ fields.params.names := h.names_params ▸ OrderedMap.mem_names_of_get? hg
    rw [OrderedMap.names_insert_of_mem _ mem, h.names_params]
  · rw [OrderedMap.get?_insert, lastAbout?_concat, hn, h.params]
    by_cases same : name = other
    · subst same
      simp [hg]
    · simp [same]
  · rw [otherNames_concat, hn]
    simp [known, h.names_others]
  · rw [lastAbout?_concat, hn, h.others]
    by_cases same : name = other
    · subst same
      simp [known]
    · simp [same]

/-- What a tag says about another name takes the place of what was said before. -/
theorem insert_other (h : fields.AreOf tags parameters) (hc : tag.isCollected = false)
    {name : Text} (hn : tag.name? = some name) (hg : parameters.get? name = none) :
    AreOf { fields with others := fields.others.insert name (tag.paramDoc none) }
      (tags ++ [tag]) parameters := by
  have unknown : parameters.contains name = false := by simp [OrderedMap.contains, hg]
  obtain ⟨docs, keywords⟩ := collected_concat_of_not tags hc
  refine {
    names_params := h.names_params, params := fun other => ?_, names_others := ?_
    others := fun other => ?_, names_tags := keywords ▸ h.names_tags
    collected := fun keyword => by rw [docs]; exact h.collected keyword }
  · rw [lastAbout?_concat, hn, h.params]
    by_cases same : name = other
    · subst same
      simp [hg]
    · simp [same]
  · rw [otherNames_concat, hn]
    simpa [unknown] using OrderedMap.names_insert_of_eq_eraseDups h.names_others name _
  · rw [OrderedMap.get?_insert, lastAbout?_concat, hn, h.others]
    by_cases same : name = other
    · subst same
      simp [unknown]
    · simp [same]

/-- A tag that is about no name and is not collected says nothing. -/
theorem skip (h : fields.AreOf tags parameters) (hc : tag.isCollected = false)
    (hn : tag.name? = none) : fields.AreOf (tags ++ [tag]) parameters := by
  obtain ⟨about, names⟩ := about_concat_of_name? parameters tags hn
  obtain ⟨docs, keywords⟩ := collected_concat_of_not tags hc
  exact {
    names_params := h.names_params, names_others := names ▸ h.names_others
    params := fun name => by rw [about, h.params]
    others := fun name => by rw [about, h.others]
    names_tags := keywords ▸ h.names_tags
    collected := fun keyword => by rw [docs, h.collected] }

theorem addTag (h : fields.AreOf tags parameters) (tag : DocTag) :
    (addTag parameters fields tag).AreOf (tags ++ [tag]) parameters := by
  rcases addTag_cases parameters fields tag with
    ⟨hc, hn, e⟩ | ⟨hc, ⟨name, declared, hn, hg, e⟩ | ⟨name, hn, hg, e⟩ | ⟨hn, e⟩⟩
  · rw [e]
    exact h.pushTag hc hn
  · rw [e]
    exact h.insert_param hc hn hg
  · rw [e]
    exact h.insert_other hc hn hg
  · rw [e]
    exact h.skip hc hn

theorem foldl_addTag (h : fields.AreOf tags parameters) (more : List DocTag) :
    (more.foldl (DocFields.addTag parameters) fields).AreOf (tags ++ more) parameters := by
  induction more generalizing fields tags with
  | nil => simpa using h
  | cons tag more ih =>
    have step := ih (h.addTag tag)
    rwa [List.append_assoc, List.singleton_append] at step

end AreOf

end DocFields

/-! ## All tags -/

/-- The fields of a comment hold what its tags say: nothing is lost and nothing comes from
elsewhere. -/
theorem StructuredDoc.areOf_fields (doc : StructuredDoc) (parameters : Parameters) :
    (doc.fields parameters).AreOf doc.tags parameters :=
  (DocFields.areOf_ofParameters parameters).foldl_addTag doc.tags

end DocHarvest.Doc
