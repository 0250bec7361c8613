import DocHarvest.Pipeline.Shard
import DocHarvest.Proofs.Language.Lawful
import DocHarvest.Proofs.Traversal

/-!
# What every record satisfies

`IsRecordOf` says what a record is: the definition that it comes from, and everything that the
filters leave of it. `isDefinitionOf_of_extractDefinition?` reads it off one definition,
`found_of_mem_extract` says which definitions a tree has, and `isRecordOf_of_mem_records` puts the
two together for the rules of any language.
-/

namespace DocHarvest

open Text Doc

namespace LanguageRules

variable {rules : LanguageRules}

/-- The definition is one that a tree is searched for, with that owner. -/
def IsFound (rules : LanguageRules) (root : Node) (source : SourceLines)
    (definition : DefinitionSite) (owner : Option Text) : Prop :=
  (definition ∈ rules.moduleFunctions root ∧ owner = rules.owner? definition.node source) ∨
  ∃ cls ∈ rules.classes root, ∃ body, rules.classBody cls = some body ∧
    definition ∈ rules.functions body ∧
    (rules.classMetadata cls source).identifier ≠ [] ∧
    owner = some (rules.classMetadata cls source).identifier

/-- What is known of a definition that the rules of a language make out of a site, its signature and
a reading of its documentation. -/
structure IsDefinitionOf (rules : LanguageRules) (options : ExtractOptions) (source : SourceLines)
    (site : DefinitionSite) (owner : Option Text) (metadata : FunctionMetadata) (doc : DocRecord)
    (d : Definition) : Prop where
  readDoc_eq : rules.readDoc? (rules.docComment site source) metadata.parameters = some doc
  /-- The documentation is read in one of the conventions. -/
  read : ∃ style parsed, DocStyle.read style (rules.docComment site source) = .ok parsed ∧
    doc.summary = parsed.summary ∧ doc.fields = parsed.fields metadata.parameters
  docstring_ne_nil : d.docstring ≠ []
  docstring_eq : d.docstring = clean doc.summary
  has_letter : ∃ c ∈ d.docstring, Unicode.isAlphabetic c = true
  not_noise : isNoise metadata.identifier d.docstring = false
  tokens_eq : d.docstringTokens = Doc.tokens d.docstring
  name_ne_nil : metadata.identifier ≠ []
  not_blacklisted : rules.isBlacklisted metadata.identifier = false
  identifier_eq : match owner with
    | none => d.identifier = metadata.identifier
    | some owner => d.identifier = owner ++ '.' :: metadata.identifier
  span_eq : (⟨d.start, d.stop⟩ : Span) = site.node.span
  function_eq : d.function = source.resolve ⟨d.start, d.stop⟩
  parameters_eq : d.parameters = metadata.parameters
  params_names : d.docstringFields.params.names = d.parameters.names
  params_nodup : d.docstringFields.params.names.Nodup
  comments : ∀ comment ∈ d.comments, comment ≠ [] ∧ ∃ raw, comment = clean raw
  body : ∃ body, rules.body? site.node = some body ∧ (options.skipSingleLineBodies = true →
    (rules.bodyExtent site.node body).span.isSingleLine = false)

/-- What is known of a record: its definition stands in the tree, and the number of its words lies
between the bounds. -/
structure IsRecordOf (rules : LanguageRules) (options : ExtractOptions) (bounds : TokenBounds)
    (tree : Node) (unit : SourceUnit) (site : DefinitionSite) (owner : Option Text)
    (doc : DocRecord) (record : ExtractionRecord) : Prop where
  provenance : record = .ofUnit unit record.definition
  found : rules.IsFound tree (.ofText unit.code) site owner
  isIn : site.node.IsIn tree
  owner_ne_nil : ∀ name, owner = some name → name ≠ []
  definition : rules.IsDefinitionOf options (.ofText unit.code) site owner
    (rules.functionMetadata site.node (.ofText unit.code)) doc record.definition
  least_lt : bounds.least < record.definition.docstringTokens.length
  lt_greatest : record.definition.docstringTokens.length < bounds.greatest
  start_le_stop : record.definition.start.row < record.definition.stop.row ∨
    record.definition.start.row = record.definition.stop.row ∧
      record.definition.start.column ≤ record.definition.stop.column

end LanguageRules

/-! ## Filters -/

theorem Doc.exists_alphabetic_of_clean {t : Text} (h : clean t ≠ []) :
    ∃ c ∈ clean t, Unicode.isAlphabetic c = true := by
  unfold clean at h ⊢
  simp only at h ⊢
  split at h
  · next he =>
    rw [if_pos he]
    rw [Bool.and_eq_true] at he
    exact List.any_eq_true.1 he.1
  · exact absurd rfl h

theorem Doc.readComment?_eq_some {style : DocStyle} {raw : Text} {parameters : Parameters}
    {doc : DocRecord} (h : readComment? style raw parameters = some doc) :
    ∃ parsed, style.read raw = .ok parsed ∧ doc.summary = parsed.summary ∧
      doc.fields = parsed.fields parameters := by
  unfold readComment? at h
  split at h
  · exact absurd h nofun
  · split at h
    · exact absurd h nofun
    · next parsed hp =>
      obtain rfl := Option.some.inj h
      exact ⟨parsed, hp, rfl, rfl⟩

namespace LanguageRules

variable {rules : LanguageRules}

theorem body?_of_isBodyEmpty {function : Node} {options : ExtractOptions}
    (h : rules.isBodyEmpty function options = false) :
    ∃ body, rules.body? function = some body ∧ (options.skipSingleLineBodies = true →
      (rules.bodyExtent function body).span.isSingleLine = false) := by
  unfold isBodyEmpty at h
  split at h
  · exact absurd h nofun
  · next body hb => exact ⟨body, hb, fun skip => by simpa [skip] using h⟩

theorem mem_proseComments {function : Node} {source : SourceLines} {comment : Text}
    (h : comment ∈ rules.proseComments function source) :
    comment ≠ [] ∧ ∃ raw, comment = clean raw := by
  obtain ⟨hm, ne⟩ := List.mem_filter.1 h
  obtain ⟨raw, -, rfl⟩ := List.mem_map.1 hm
  exact ⟨by simpa using ne, raw, rfl⟩

theorem isDefinitionOf_of_extractDefinition? (lawful : rules.Lawful) {site : DefinitionSite}
    {owner : Option Text} {source : SourceLines} {options : ExtractOptions} {d : Definition}
    (h : rules.extractDefinition? site owner source options = some d) :
    ∃ doc, rules.IsDefinitionOf options source site owner
      (rules.functionMetadata site.node source) doc d := by
  unfold extractDefinition? at h
  simp only at h
  split at h
  · exact absurd h nofun
  · next notEmpty =>
    split at h
    · exact absurd h nofun
    · next named =>
      split at h
      · exact absurd h nofun
      · obtain ⟨doc, hdoc, h⟩ := Option.bind_eq_some_iff.1 h
        split at h
        · exact absurd h nofun
        · next content =>
          obtain rfl := Option.some.inj h
          simp only [Bool.or_eq_true, not_or, Bool.not_eq_true, List.isEmpty_eq_false_iff]
            at named content
          obtain ⟨style, hstyle⟩ := lawful.readDoc_reads hdoc
          obtain ⟨parsed, hread, hsummary, hfields⟩ := readComment?_eq_some hstyle
          have names := parsed.names_params_fields
            (rules.functionMetadata site.node source).parameters
          exact ⟨doc, {
            readDoc_eq := hdoc
            read := ⟨style, parsed, hread, hsummary, hfields⟩
            docstring_ne_nil := content.1
            docstring_eq := rfl
            has_letter := exists_alphabetic_of_clean content.1
            not_noise := content.2
            tokens_eq := rfl
            name_ne_nil := named.1
            not_blacklisted := named.2
            identifier_eq := by cases owner <;> rfl
            span_eq := rfl
            function_eq := rfl
            parameters_eq := rfl
            params_names := by rw [hfields, names]
            params_nodup := by rw [hfields, names]; exact lawful.nodup_parameters _ _
            comments := fun comment hc => mem_proseComments hc
            body := body?_of_isBodyEmpty (Bool.not_eq_true _ ▸ notEmpty) }⟩

/-! ## Trees -/

/-- A definition of a class is made out of a site in its body; the class has a name. -/
theorem found_of_mem_extractClass {root cls : Node} {source : SourceLines}
    {options : ExtractOptions} {ds : List Definition} (hcls : cls ∈ rules.classes root)
    (h : rules.extractClass cls source options = .ok ds) {d : Definition} (hd : d ∈ ds) :
    ∃ site owner, rules.IsFound root source site owner ∧
      rules.extractDefinition? site owner source options = some d := by
  unfold extractClass at h
  simp only at h
  split at h
  · exact absurd h nofun
  · next named =>
    split at h
    · obtain rfl := Except.ok.inj h
      exact absurd hd List.not_mem_nil
    · next body hbody =>
      obtain rfl := Except.ok.inj h
      obtain ⟨site, hs, hd⟩ := List.mem_filterMap.1 hd
      exact ⟨site, _, .inr ⟨cls, hcls, body, hbody, hs, by simpa using named, rfl⟩, hd⟩

theorem found_of_mem_extract {root : Node} {code : Text} {options : ExtractOptions}
    {ds : List Definition} (h : rules.extract root code options = .ok ds) {d : Definition}
    (hd : d ∈ ds) : ∃ site owner, rules.IsFound root (.ofText code) site owner ∧
      rules.extractDefinition? site owner (.ofText code) options = some d := by
  unfold extract at h
  simp only at h
  cases methods : (rules.classes root).mapM
      fun cls => rules.extractClass cls (.ofText code) options with
  | error e =>
    rw [methods] at h
    exact absurd h nofun
  | ok classes =>
    rw [methods] at h
    obtain rfl : _ = ds := Except.ok.inj h
    rcases List.mem_append.1 hd with hd | hd
    · obtain ⟨site, hs, hd⟩ := List.mem_filterMap.1 hd
      exact ⟨site, _, .inl ⟨hs, rfl⟩, hd⟩
    · obtain ⟨ds, hds, hd⟩ := List.mem_flatten.1 hd
      obtain ⟨cls, hcls, hc⟩ := exists_of_mem_mapM methods hds
      exact found_of_mem_extractClass hcls hc hd

namespace IsFound

variable {root : Node} {source : SourceLines} {site : DefinitionSite} {owner : Option Text}

theorem isIn (lawful : rules.Lawful) (h : rules.IsFound root source site owner) :
    site.node.IsIn root := by
  rcases h with ⟨hs, -⟩ | ⟨cls, hcls, body, hbody, hs, -⟩
  · exact lawful.moduleFunctions_isIn hs
  · exact (lawful.functions_isIn hs).trans
      ((lawful.classBody_isIn hbody).trans (lawful.classes_isIn hcls))

theorem owner_ne_nil (lawful : rules.Lawful) (h : rules.IsFound root source site owner)
    {name : Text} (ho : owner = some name) : name ≠ [] := by
  rcases h with ⟨-, rfl⟩ | ⟨cls, -, body, -, -, named, rfl⟩
  · exact lawful.owner_ne_nil ho
  · exact Option.some.inj ho ▸ named

end IsFound

/-! ## Records -/

/-- Every record of a source file is made out of a definition of its tree that passes every filter,
and its fields are what that definition says. -/
theorem isRecordOf_of_mem_records (language : Language) {options : ExtractOptions}
    {bounds : TokenBounds} {tree : Node} {unit : SourceUnit} (placed : tree.IsPlaced unit.code)
    {records : List ExtractionRecord}
    (h : language.rules.records options bounds tree unit = .ok records)
    {record : ExtractionRecord} (mem : record ∈ records) :
    ∃ site owner doc, language.rules.IsRecordOf options bounds tree unit site owner doc record := by
  have lawful := language.lawful_rules
  unfold LanguageRules.records at h
  cases hds : language.rules.extract tree unit.code options with
  | error e =>
    rw [hds] at h
    exact absurd h nofun
  | ok ds =>
    rw [hds] at h
    obtain rfl : _ = records := Except.ok.inj h
    obtain ⟨d, hd, rfl⟩ := List.mem_map.1 mem
    obtain ⟨hd, admitted⟩ := List.mem_filter.1 hd
    obtain ⟨site, owner, found, hd⟩ := found_of_mem_extract hds hd
    obtain ⟨doc, definition⟩ := isDefinitionOf_of_extractDefinition? lawful hd
    simp only [TokenBounds.admits, Bool.and_eq_true, decide_eq_true_eq] at admitted
    have span := definition.span_eq
    have start := (Span.mk.inj span).1
    have stop := (Span.mk.inj span).2
    refine ⟨site, owner, doc, {
      provenance := rfl
      found := found
      isIn := found.isIn lawful
      owner_ne_nil := fun _ => found.owner_ne_nil lawful
      definition := definition
      least_lt := admitted.1
      lt_greatest := admitted.2
      start_le_stop := ?_ }⟩
    simp only [ExtractionRecord.ofUnit, start, stop]
    exact Point.le_iff.1 (placed.le (found.isIn lawful))

end LanguageRules

/-! ## A file with one record -/

/-- A Go function that does nothing, below a comment of one word. -/
def padsUnit : SourceUnit := ⟨[], [], "go".toList, [], "// Pads\nfunc f() \x7b\n\x7d".toList⟩

/-- The syntax tree of `padsUnit`. -/
def padsTree : Node :=
  .mk ⟨"source_file", true, 0, 20, ⟨0, 0⟩, ⟨2, 1⟩, none, 0⟩ [
    .mk ⟨"comment", true, 0, 7, ⟨0, 0⟩, ⟨0, 7⟩, none, 1⟩ [],
    .mk ⟨"function_declaration", true, 8, 20, ⟨1, 0⟩, ⟨2, 1⟩, none, 2⟩ [
      .mk ⟨"identifier", true, 13, 14, ⟨1, 5⟩, ⟨1, 6⟩, some "name", 3⟩ [],
      .mk ⟨"block", true, 17, 20, ⟨1, 9⟩, ⟨2, 1⟩, some "body", 4⟩ []]]

/-- The record of the function of `padsUnit`. -/
def padsRecord : ExtractionRecord :=
  .ofUnit padsUnit {
    identifier := ['f']
    parameters := .empty
    function := "func f() \x7b\n\x7d".toList
    functionTokens := [['f'], "\x7b\n\x7d".toList]
    writtenDocstring := "Pads".toList
    docstring := "Pads".toList
    docstringTokens := ["Pads".toList]
    docstringFields := {}
    comments := []
    start := ⟨1, 0⟩
    stop := ⟨2, 1⟩ }

theorem padsTree_isPlaced : padsTree.IsPlaced padsUnit.code := .of_every (by decide)

theorem records_padsUnit :
    Language.go.rules.records {} ⟨0, 9⟩ padsTree padsUnit = .ok [padsRecord] := by
  decide +kernel

theorem isRecordOf_padsRecord :
    padsTree.IsPlaced padsUnit.code ∧
      Language.go.rules.records {} ⟨0, 9⟩ padsTree padsUnit = .ok [padsRecord] ∧
      ∃ site owner doc,
        Language.go.rules.IsRecordOf {} ⟨0, 9⟩ padsTree padsUnit site owner doc padsRecord :=
  ⟨padsTree_isPlaced, records_padsUnit,
    LanguageRules.isRecordOf_of_mem_records .go padsTree_isPlaced records_padsUnit
      List.mem_cons_self⟩

end DocHarvest
