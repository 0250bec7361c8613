import DocHarvest.Language.Registry
import DocHarvest.Proofs.Doc.Fields
import DocHarvest.Proofs.Source.Within

/-!
# What all languages have in common

`LanguageRules.Lawful` collects what `LanguageRules.extract` relies on and every language keeps:
definitions and classes are nodes of the tree, parameters have distinct names, an owner has a name,
and documentation is read in one of the conventions. `Language.lawful_rules` : all six do.
-/

namespace DocHarvest

open Text Doc

/-- What the rules of a language keep. -/
structure LanguageRules.Lawful (rules : LanguageRules) : Prop where
  functions_isIn : ∀ {container : Site} {definition : DefinitionSite},
    definition ∈ rules.functions container → definition.node.IsIn container.node
  moduleFunctions_isIn : ∀ {root : Node} {definition : DefinitionSite},
    definition ∈ rules.moduleFunctions root → definition.node.IsIn root
  classes_isIn : ∀ {root cls : Node}, cls ∈ rules.classes root → cls.IsIn root
  classBody_isIn : ∀ {cls : Node} {body : Site}, rules.classBody cls = some body →
    body.node.IsIn cls
  nodup_parameters : ∀ (function : Node) (source : SourceLines),
    (rules.functionMetadata function source).parameters.names.Nodup
  owner_ne_nil : ∀ {function : Node} {source : SourceLines} {owner : Text},
    rules.owner? function source = some owner → owner ≠ []
  readDoc_reads : ∀ {raw : Text} {parameters : Parameters} {doc : DocRecord},
    rules.readDoc? raw parameters = some doc → ∃ style, readComment? style raw parameters = some doc

/-! ## Selections -/

/-- A selection that keeps nodes as they are looks no further than the anchor. -/
theorem isIn_of_ite {p : Prop} [Decidable p] {anchor node : Node}
    (h : (if p then some anchor else none) = some node) : node.IsIn anchor := by
  split at h
  · exact Option.some.inj h ▸ .refl anchor
  · exact absurd h nofun

theorem JavaScript.isIn_of_exported? {n declaration : Node} (h : exported? n = some declaration) :
    declaration.IsIn n := by
  unfold exported? at h
  split at h
  · exact Node.isIn_of_child? h
  · exact Option.some.inj h ▸ .refl n

theorem JavaScript.isIn_of_topLevelFunction? {n function : Node}
    (h : topLevelFunction? n = some function) : function.IsIn n := by
  obtain ⟨declaration, hd, h⟩ := Option.bind_eq_some_iff.1 h
  have inside := isIn_of_exported? hd
  split at h
  · exact Option.some.inj h ▸ inside
  · split at h
    · obtain ⟨_, -, rfl⟩ := Option.map_eq_some_iff.1 h
      exact inside
    · exact absurd h nofun

theorem JavaScript.isIn_of_mem_classesOf {kinds : List String} {root cls : Node}
    (h : cls ∈ classesOf kinds root) : cls.IsIn root := by
  obtain ⟨n, hn, h⟩ := List.mem_filterMap.1 (List.mem_filter.1 h).1
  exact (isIn_of_exported? h).trans (Node.isIn_of_mem_children hn)

theorem Python.isIn_of_definitionOf? {kind : String} {n definition : Node}
    (h : definitionOf? kind n = some definition) : definition.IsIn n := by
  unfold definitionOf? at h
  split at h
  · obtain ⟨m, hm, h⟩ := Option.bind_eq_some_iff.1 h
    exact (isIn_of_ite h).trans (Node.isIn_of_child? hm)
  · exact isIn_of_ite h

/-! ## Containers -/

theorem Java.isIn_of_mem_functions {container : Site} {definition : DefinitionSite}
    (h : definition ∈ Java.rules.functions container) : definition.node.IsIn container.node := by
  simp only [rules] at h
  exact isIn_of_mem_definitionsIn (by intro _ _ hs; exact isIn_of_ite hs) h

theorem JavaScript.isIn_of_mem_methods {container : Site} {definition : DefinitionSite}
    (h : definition ∈ methods container) : definition.node.IsIn container.node :=
  isIn_of_mem_definitionsIn (by intro _ _ hs; exact isIn_of_ite hs) h

theorem Go.isIn_of_mem_functions {container : Site} {definition : DefinitionSite}
    (h : definition ∈ functions container) : definition.node.IsIn container.node :=
  isIn_of_mem_definitionsIn (by intro _ _ hs; exact isIn_of_ite hs) h

theorem Ruby.isIn_of_mem_functions {container : Site} {definition : DefinitionSite}
    (h : definition ∈ functions container) : definition.node.IsIn container.node :=
  isIn_of_mem_definitionsIn (by intro _ _ hs; exact isIn_of_ite hs) h

theorem Python.isIn_of_mem_functions {container : Site} {definition : DefinitionSite}
    (h : definition ∈ functions container) : definition.node.IsIn container.node :=
  isIn_of_mem_definitionsIn isIn_of_definitionOf? h

/-! ## The languages -/

theorem Java.lawful_rules : Java.rules.Lawful where
  functions_isIn := isIn_of_mem_functions
  moduleFunctions_isIn h := absurd h List.not_mem_nil
  classes_isIn h := Node.isIn_of_mem_children (List.mem_filter.1 h).1
  classBody_isIn h := Site.isIn_of_find? h
  nodup_parameters _ _ := OrderedMap.nodup_names_ofList _
  owner_ne_nil h := absurd h nofun
  readDoc_reads h := ⟨rules.docStyle, h⟩

theorem JavaScript.nodup_parameters (function : Node) (source : SourceLines) :
    (functionMetadata function source).parameters.names.Nodup := by
  simp only [functionMetadata]
  cases callable? function with
  | none => exact List.nodup_nil
  | some callable =>
    simp only [Option.map_some, Option.getD_some, parameters]
    split <;> exact OrderedMap.nodup_names_ofList _

theorem JavaScript.lawful_rules : JavaScript.rules.Lawful where
  functions_isIn := isIn_of_mem_methods
  moduleFunctions_isIn h := isIn_of_mem_definitionsIn isIn_of_topLevelFunction? h
  classes_isIn h := isIn_of_mem_classesOf h
  classBody_isIn h := Site.isIn_of_find? h
  nodup_parameters := nodup_parameters
  owner_ne_nil h := absurd h nofun
  readDoc_reads h := ⟨rules.docStyle, h⟩

theorem TypeScript.lawful_rules : TypeScript.rules.Lawful :=
  { JavaScript.lawful_rules with classes_isIn := JavaScript.isIn_of_mem_classesOf }

theorem Go.owner_ne_nil {function : Node} {source : SourceLines} {owner : Text}
    (h : owner? function source = some owner) : owner ≠ [] := by
  obtain ⟨_, -, h⟩ := Option.bind_eq_some_iff.1 h
  obtain ⟨_, -, h⟩ := Option.bind_eq_some_iff.1 h
  obtain ⟨_, -, h⟩ := Option.bind_eq_some_iff.1 h
  unfold nonBlank? at h
  simp only at h
  split at h
  · exact absurd h nofun
  · next ne =>
    obtain rfl := Option.some.inj h
    simpa using ne

theorem Go.lawful_rules : Go.rules.Lawful where
  functions_isIn := isIn_of_mem_functions
  moduleFunctions_isIn h := isIn_of_mem_functions h
  classes_isIn h := absurd h List.not_mem_nil
  classBody_isIn h := Site.isIn_of_find? h
  nodup_parameters _ _ := OrderedMap.nodup_names_ofList _
  owner_ne_nil := owner_ne_nil
  readDoc_reads h := ⟨rules.docStyle, h⟩

theorem Ruby.isIn_of_bodySite? {n : Node} {body : Site} (h : bodySite? n = some body) :
    body.node.IsIn n := by
  rcases Option.or_eq_some_iff.1 h with h | ⟨-, h⟩
  · exact Site.isIn_of_find? h
  · exact Site.isIn_of_find? h

theorem Ruby.lawful_rules : Ruby.rules.Lawful where
  functions_isIn := isIn_of_mem_functions
  moduleFunctions_isIn h := isIn_of_mem_functions h
  classes_isIn h := Node.isIn_of_mem_ofKinds h
  classBody_isIn h := isIn_of_bodySite? h
  nodup_parameters _ _ := OrderedMap.nodup_names_ofList _
  owner_ne_nil h := absurd h nofun
  readDoc_reads h := ⟨rules.docStyle, h⟩

theorem Python.lawful_rules : Python.rules.Lawful where
  functions_isIn := isIn_of_mem_functions
  moduleFunctions_isIn h := isIn_of_mem_functions h
  classes_isIn h := by
    obtain ⟨n, hn, h⟩ := List.mem_filterMap.1 h
    exact (isIn_of_definitionOf? h).trans (Node.isIn_of_mem_children hn)
  classBody_isIn h := Site.isIn_of_find? h
  nodup_parameters _ _ := OrderedMap.nodup_names_ofList _
  owner_ne_nil h := absurd h nofun
  readDoc_reads {raw _ _} h := ⟨DocStyle.detect raw, h⟩

theorem Language.lawful_rules : ∀ l : Language, l.rules.Lawful
  | python => Python.lawful_rules
  | java => Java.lawful_rules
  | javaScript => JavaScript.lawful_rules
  | typeScript => TypeScript.lawful_rules
  | go => Go.lawful_rules
  | ruby => Ruby.lawful_rules

end DocHarvest
