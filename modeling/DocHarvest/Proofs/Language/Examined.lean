import DocHarvest.Proofs.Language.Records

/-!
# The definitions that a tree is searched for

`LanguageRules.examined` lists them, each with its owner: first the functions outside any class, then
those of one class after another. An extraction makes what it can of each of them
(`LanguageRules.documented`), unless a class has no name (`refusal?`); `extract_eq` and `records_eq`
say so of a whole tree and of a source file.
-/

namespace DocHarvest

namespace LanguageRules

variable (rules : LanguageRules)

/-- The definitions right inside the body of a class, each with the class as its owner. -/
def examinedIn (cls : Node) (source : SourceLines) : List (DefinitionSite × Option Text) :=
  match rules.classBody cls with
  | none => []
  | some body =>
    (rules.functions body).map fun site => (site, some (rules.classMetadata cls source).identifier)

/-- The definitions that a tree is searched for, each with its owner. -/
def examined (root : Node) (source : SourceLines) : List (DefinitionSite × Option Text) :=
  (rules.moduleFunctions root).map (fun site => (site, rules.owner? site.node source)) ++
    (rules.classes root).flatMap (rules.examinedIn · source)

/-- Whether a class has no name. -/
def isNameless (source : SourceLines) (cls : Node) : Bool :=
  (rules.classMetadata cls source).identifier.isEmpty

/-- Why a tree gives nothing at all: the first of its classes without a name. -/
def refusal? (root : Node) (source : SourceLines) : Option SkipReason :=
  ((rules.classes root).find? (rules.isNameless source)).map fun cls =>
    .missingIdentifier cls.kind cls.label.start

/-- What is made of these definitions, each with its place in the tree. -/
def documentedAmong (source : SourceLines) (options : ExtractOptions)
    (among : List (DefinitionSite × Option Text)) : List (DefinitionSite × Definition) :=
  among.filterMap fun entry =>
    (rules.extractDefinition? entry.1 entry.2 source options).map (entry.1, ·)

/-- The documented definitions of a tree that pass the filters, each with its place in the tree. -/
def documented (root : Node) (source : SourceLines) (options : ExtractOptions) :
    List (DefinitionSite × Definition) :=
  rules.documentedAmong source options (rules.examined root source)

variable {rules}

theorem mem_examined {root : Node} {source : SourceLines} {site : DefinitionSite}
    {owner : Option Text} :
    (site, owner) ∈ rules.examined root source ↔
      (site ∈ rules.moduleFunctions root ∧ owner = rules.owner? site.node source) ∨
      ∃ cls ∈ rules.classes root, ∃ body, rules.classBody cls = some body ∧
        site ∈ rules.functions body ∧ owner = some (rules.classMetadata cls source).identifier := by
  have inClass : ∀ cls, (site, owner) ∈ rules.examinedIn cls source ↔
      ∃ body, rules.classBody cls = some body ∧ site ∈ rules.functions body ∧
        owner = some (rules.classMetadata cls source).identifier := by
    intro cls
    rw [examinedIn]
    cases rules.classBody cls with
    | none => simp
    | some body => simp [eq_comm]
  rw [examined, List.mem_append, List.mem_flatMap]
  simp only [inClass]
  simp [eq_comm]

theorem map_snd_documentedAmong (source : SourceLines) (options : ExtractOptions)
    (among : List (DefinitionSite × Option Text)) :
    (rules.documentedAmong source options among).map Prod.snd =
      among.filterMap fun entry => rules.extractDefinition? entry.1 entry.2 source options := by
  unfold documentedAmong
  rw [List.map_filterMap]
  congr 1
  funext entry
  rw [Option.map_map]
  exact Option.map_id'

/-! ## Extraction -/

theorem extractModule_eq (root : Node) (source : SourceLines) (options : ExtractOptions) :
    rules.extractModule root source options =
      (rules.documentedAmong source options ((rules.moduleFunctions root).map
        fun site => (site, rules.owner? site.node source))).map Prod.snd := by
  rw [map_snd_documentedAmong, List.filterMap_map]
  rfl

theorem extractClass_eq (cls : Node) (source : SourceLines) (options : ExtractOptions) :
    rules.extractClass cls source options =
      if rules.isNameless source cls then .error (.missingIdentifier cls.kind cls.label.start)
      else .ok ((rules.documentedAmong source options (rules.examinedIn cls source)).map
        Prod.snd) := by
  rw [map_snd_documentedAmong]
  unfold extractClass isNameless examinedIn
  cases rules.classBody cls with
  | none => rfl
  | some body =>
    simp only [List.filterMap_map]
    rfl

/-- Classes are gone through until one has no name. -/
theorem mapM_extractClass (source : SourceLines) (options : ExtractOptions) (classes : List Node) :
    (classes.mapM fun cls => rules.extractClass cls source options) =
      match classes.find? (rules.isNameless source) with
      | some cls => .error (.missingIdentifier cls.kind cls.label.start)
      | none => .ok (classes.map fun cls =>
          (rules.documentedAmong source options (rules.examinedIn cls source)).map Prod.snd) := by
  induction classes with
  | nil => rfl
  | cons cls classes ih =>
    rw [List.mapM_cons, extractClass_eq, ih]
    cases nameless : rules.isNameless source cls with
    | true =>
      rw [List.find?_cons_of_pos nameless]
      rfl
    | false =>
      rw [List.find?_cons_of_neg (by simp [nameless])]
      cases classes.find? (rules.isNameless source) with
      | none => rfl
      | some other => rfl

/-- An extraction makes what it can of the definitions that a tree is searched for, unless a class of
the tree has no name. -/
theorem extract_eq (root : Node) (code : Text) (options : ExtractOptions) :
    rules.extract root code options =
      match rules.refusal? root (.ofText code) with
      | some reason => .error reason
      | none => .ok ((rules.documented root (.ofText code) options).map Prod.snd) := by
  unfold extract refusal?
  simp only
  rw [mapM_extractClass]
  cases (rules.classes root).find? (rules.isNameless (.ofText code)) with
  | some cls => rfl
  | none =>
    have classes : (rules.documentedAmong (.ofText code) options
        ((rules.classes root).flatMap (rules.examinedIn · (.ofText code)))).map Prod.snd =
          ((rules.classes root).map fun cls => (rules.documentedAmong (.ofText code) options
            (rules.examinedIn cls (.ofText code))).map Prod.snd).flatten := by
      simp only [map_snd_documentedAmong]
      rw [List.filterMap_flatMap, List.flatMap_def]
    rw [documented, examined, map_snd_documentedAmong, List.filterMap_append,
      ← map_snd_documentedAmong, ← map_snd_documentedAmong, ← extractModule_eq, classes]
    rfl

theorem refusal?_eq_none {root : Node} {source : SourceLines} :
    rules.refusal? root source = none ↔
      ∀ cls ∈ rules.classes root, (rules.classMetadata cls source).identifier ≠ [] := by
  rw [refusal?, Option.map_eq_none_iff, List.find?_eq_none]
  simp [isNameless]

/-- A tree gives definitions if all its classes have names. -/
theorem extract_eq_ok {root : Node} {code : Text} {options : ExtractOptions}
    {ds : List Definition} :
    rules.extract root code options = .ok ds ↔
      (∀ cls ∈ rules.classes root, (rules.classMetadata cls (.ofText code)).identifier ≠ []) ∧
      ds = (rules.documented root (.ofText code) options).map Prod.snd := by
  rw [extract_eq, ← refusal?_eq_none]
  cases rules.refusal? root (.ofText code) with
  | some reason => exact ⟨nofun, fun h => absurd h.1 nofun⟩
  | none => exact ⟨fun h => ⟨rfl, (Except.ok.inj h).symm⟩, fun h => congrArg _ h.2.symm⟩

/-- The records of a source file are the definitions of its tree whose documentation has a number of
words between the bounds. -/
theorem records_eq (options : ExtractOptions) (bounds : TokenBounds) (tree : Node)
    (unit : SourceUnit) :
    rules.records options bounds tree unit =
      match rules.refusal? tree (.ofText unit.code) with
      | some reason => .error reason
      | none => .ok (((rules.documented tree (.ofText unit.code) options).filter
          fun found => bounds.admits found.2.docstringTokens.length).map
            fun found => .ofUnit unit found.2) := by
  unfold records
  rw [extract_eq]
  cases rules.refusal? tree (.ofText unit.code) with
  | some reason => rfl
  | none =>
    simp only [Except.map, List.filter_map, List.map_map]
    rfl

end LanguageRules

end DocHarvest
