import DocHarvest.Proofs.Language.Searches
import DocHarvest.Proofs.Source.Leaves

/-!
# Tokens of a function

The code of a function is cut into the texts of its leaves. `Definition.IsTokenized` says what that
means: the tokens lie in the text of the function one behind the other, and every leaf of the
function is one of them, except for its documentation. Only Python has documentation among the nodes
of a function: the string that opens its body (`Python.docNode?_eq_some`), which is one of the leaves
(`Python.isLeafIn_of_docNode?`).

* `Language.isTokenized_of_mem_extract` : the tokens of every definition that a language extracts
-/

namespace DocHarvest

open Text Doc

/-- What is known of the tokens of a definition that is made out of the node of a function: they are
the texts of the leaves that are kept, all of them but the missing nodes. -/
structure Definition.IsTokenized (d : Definition) (atomic : List String) (code : Text)
    (function : Node) (missing kept : List Node) : Prop where
  function_eq : byteSlice? code function.label.startByte function.label.endByte = some d.function
  tokens_eq : d.functionTokens = kept.map (·.text (.ofText code))
  mem_kept : ∀ leaf, leaf ∈ kept ↔ leaf.IsLeafIn function atomic ∧ leaf ∉ missing
  nodup : kept.Nodup
  /-- A token is the text of the function between the offsets of its leaf. -/
  slices : ∀ leaf ∈ kept, function.label.startByte ≤ leaf.label.startByte ∧
    byteSlice? d.function (leaf.label.startByte - function.label.startByte)
      (leaf.label.endByte - function.label.startByte) = some (leaf.text (.ofText code))
  apart : kept.Pairwise fun a b => a.label.endByte ≤ b.label.startByte
  cut : IsCutInto d.function d.functionTokens
  /-- Every node without children lies in exactly one leaf. -/
  covered : ∀ n : Node, n.IsIn function → n.children = [] →
    ∃! leaf : Node, leaf.IsLeafIn function atomic ∧ n.IsIn leaf

/-! ## Nodes that are left out -/

namespace Node

/-- The leaves of a node without the nodes that are left out. -/
def keptLeaves (n : Node) (atomic : List String) (excluded : List Node) : List Node :=
  (n.leaves atomic).filter fun leaf => !excluded.any (·.label.place = leaf.label.place)

theorem keptLeaves_sublist (n : Node) (atomic : List String) (excluded : List Node) :
    (n.keptLeaves atomic excluded).Sublist (n.leaves atomic) :=
  List.filter_sublist

/-- Where places are distinct, exactly the given nodes are left out. -/
theorem mem_keptLeaves {atomic : List String} {excluded : List Node} {root n leaf : Node}
    (numbered : root.IsNumbered) (hn : n.IsIn root) (excludedIn : ∀ m ∈ excluded, m.IsIn root) :
    leaf ∈ n.keptLeaves atomic excluded ↔ leaf.IsLeafIn n atomic ∧ leaf ∉ excluded := by
  rw [keptLeaves, List.mem_filter, mem_leaves (numbered.of_isIn hn)]
  refine and_congr_right fun top => ?_
  have same : leaf ∈ excluded ↔ ∃ m ∈ excluded, m.label.place = leaf.label.place := by
    constructor
    · exact fun mem => ⟨leaf, mem, rfl⟩
    · rintro ⟨m, mem, place⟩
      exact numbered.eq_of_place_eq (excludedIn m mem) (top.isIn.trans hn) place ▸ mem
  rw [same]
  simp

end Node

namespace LanguageRules

variable {rules : LanguageRules}

theorem functionTokens_eq {site : DefinitionSite} {owner : Option Text} {source : SourceLines}
    {options : ExtractOptions} {d : Definition}
    (h : rules.extractDefinition? site owner source options = some d) :
    d.function = site.node.text source ∧
      d.functionTokens = (site.node.keptLeaves rules.stringKinds (rules.docNodes site.node)).map
        (·.text source) := by
  unfold extractDefinition? at h
  simp only at h
  split at h
  · exact absurd h nofun
  · split at h
    · exact absurd h nofun
    · split at h
      · exact absurd h nofun
      · obtain ⟨doc, -, h⟩ := Option.bind_eq_some_iff.1 h
        split at h
        · exact absurd h nofun
        · obtain rfl := Option.some.inj h
          exact ⟨rfl, rfl⟩

/-- The tokens of a definition are those of its leaves that are no documentation. -/
theorem isTokenized {root : Node} {code : Text} (nested : root.IsNested code)
    (numbered : root.IsNumbered) {site : DefinitionSite} (hn : site.node.IsIn root)
    (docs : ∀ n ∈ rules.docNodes site.node, n.IsIn root) {owner : Option Text}
    {options : ExtractOptions} {d : Definition}
    (h : rules.extractDefinition? site owner (.ofText code) options = some d) :
    d.IsTokenized rules.stringKinds code site.node (rules.docNodes site.node)
      (site.node.keptLeaves rules.stringKinds (rules.docNodes site.node)) := by
  obtain ⟨function, tokens⟩ := functionTokens_eq h
  have kept := site.node.keptLeaves_sublist rules.stringKinds (rules.docNodes site.node)
  have below : ∀ leaf ∈ site.node.keptLeaves rules.stringKinds (rules.docNodes site.node),
      leaf.IsIn site.node := fun leaf mem =>
    ((Node.mem_keptLeaves numbered hn docs).1 mem).1.isIn
  have slice : byteSlice? code site.node.label.startByte site.node.label.endByte =
      some d.function := by
    rw [function]
    exact nested.byteSlice?_text hn
  have texts : ∀ leaf ∈ site.node.keptLeaves rules.stringKinds (rules.docNodes site.node),
      byteSlice? code leaf.label.startByte leaf.label.endByte =
        some (leaf.text (.ofText code)) := fun leaf mem =>
    nested.byteSlice?_text ((below leaf mem).trans hn)
  have inside : ∀ leaf ∈ site.node.keptLeaves rules.stringKinds (rules.docNodes site.node),
      site.node.label.startByte ≤ leaf.label.startByte ∧
        leaf.label.endByte ≤ site.node.label.endByte := fun leaf mem =>
    nested.inside_of_isIn hn (below leaf mem)
  have apart := (nested.pairwise_leaves rules.stringKinds hn).sublist kept
  exact {
    function_eq := slice
    tokens_eq := tokens
    mem_kept := fun leaf => Node.mem_keptLeaves numbered hn docs
    nodup := ((site.node.leaves_sublist _).nodup (numbered.of_isIn hn).nodup_nodes).sublist kept
    slices := fun leaf mem => ⟨(inside leaf mem).1,
      byteSlice?_relative slice (texts leaf mem) (inside leaf mem).1 (inside leaf mem).2⟩
    apart := apart
    cut := tokens ▸ isCutInto_of_pairwise slice texts inside apart
    covered := fun n below childless =>
      Node.existsUnique_leaf _ (numbered.of_isIn hn) below childless }

end LanguageRules

/-! ## The string that opens a body -/

namespace Python

/-- The documentation of a function is the string that the first statement of its body is. -/
theorem docNode?_eq_some {function literal : Node} :
    docNode? function = some literal ↔ ∃ body statement, function.child? "body" = some body ∧
      body.namedChildren.find? (·.kind ≠ "comment") = some statement ∧
      statement.kind = "expression_statement" ∧
      statement.namedChildren.head? = some literal ∧ literal.kind = "string" := by
  simp only [docNode?, Option.bind_eq_bind, Option.bind_eq_some_iff]
  constructor
  · rintro ⟨body, hbody, statement, hs, h⟩
    split at h
    · next kind =>
      obtain ⟨first, string⟩ := Option.filter_eq_some_iff.1 h
      exact ⟨body, statement, hbody, hs, kind, first, by simpa using string⟩
    · exact absurd h nofun
  · rintro ⟨body, statement, hbody, hs, kind, first, string⟩
    refine ⟨body, hbody, statement, hs, ?_⟩
    rw [if_pos kind]
    exact Option.filter_eq_some_iff.2 ⟨first, by simpa using string⟩

theorem mem_children_of_mem_namedChildren {n c : Node} (h : c ∈ n.namedChildren) :
    c ∈ n.children :=
  (List.mem_filter.1 h).1

theorem isIn_of_docNode? {function literal : Node} (h : docNode? function = some literal) :
    literal.IsIn function := by
  obtain ⟨body, statement, hbody, hs, -, first, -⟩ := docNode?_eq_some.1 h
  have statementIn : statement.IsIn body := Node.isIn_of_mem_children
    (mem_children_of_mem_namedChildren (List.mem_of_find?_eq_some hs))
  exact (Node.isIn_of_mem_children (mem_children_of_mem_namedChildren
    (List.mem_of_head? first))).trans (statementIn.trans (Node.isIn_of_child? hbody))

/-- The string that opens the body of a function is one of its leaves, unless the body as a whole is a
string. -/
theorem isLeafIn_of_docNode? {function body literal : Node} (numbered : function.IsNumbered)
    (kind : function.kind = "function_definition") (hbody : function.child? "body" = some body)
    (bodyKind : body.kind ≠ "string") (h : docNode? function = some literal) :
    literal.IsLeafIn function rules.stringKinds := by
  have inside := isIn_of_docNode? h
  obtain ⟨body', statement, hbody', hs, statementKind, first, string⟩ := docNode?_eq_some.1 h
  obtain rfl := Option.some.inj (hbody.symm.trans hbody')
  have isString : ∀ n : Node, n.isOf rules.stringKinds = true ↔ n.kind = "string" := fun n => by
    simp [rules, Node.isOf]
  have bodyMem : body ∈ function.children := List.mem_of_find?_eq_some hbody
  have statementMem := mem_children_of_mem_namedChildren (List.mem_of_find?_eq_some hs)
  have literalMem := mem_children_of_mem_namedChildren (List.mem_of_head? first)
  have inStatement := Node.isIn_of_mem_children literalMem
  have inBody := inStatement.trans (Node.isIn_of_mem_children statementMem)
  refine ⟨inside, .inl ((isString literal).2 string), fun above hin covers atomic => ?_⟩
  rw [isString] at atomic
  -- on the way down to the literal, nothing else is a string
  rcases numbered.cases_above bodyMem inBody hin covers with rfl | hin
  · exact absurd (kind.symm.trans atomic) (by decide)
  have numbered := numbered.of_isIn (Node.isIn_of_mem_children bodyMem)
  rcases numbered.cases_above statementMem inStatement hin covers with rfl | hin
  · exact absurd atomic bodyKind
  have numbered := numbered.of_isIn (Node.isIn_of_mem_children statementMem)
  rcases numbered.cases_above literalMem (.refl literal) hin covers with rfl | hin
  · exact absurd (statementKind.symm.trans atomic) (by decide)
  exact hin.antisymm covers

/-- What is extracted has documentation. -/
theorem exists_docNode? {site : DefinitionSite} {owner : Option Text} {source : SourceLines}
    {options : ExtractOptions} {d : Definition}
    (h : rules.extractDefinition? site owner source options = some d) :
    ∃ literal, docNode? site.node = some literal := by
  obtain ⟨doc, definition⟩ := LanguageRules.isDefinitionOf_of_extractDefinition? lawful_rules h
  cases found : docNode? site.node with
  | some literal => exact ⟨literal, rfl⟩
  | none =>
    have blank : rules.docComment site source = [] := by
      show docComment site source = []
      rw [docComment, found]
      rfl
    have read := definition.readDoc_eq
    rw [blank] at read
    exact absurd read nofun

theorem kind_of_mem_functions {container : Site} {site : DefinitionSite}
    (h : site ∈ functions container) : site.node.kind = "function_definition" := by
  obtain ⟨anchor, -, selected⟩ := exists_of_mem_definitionsIn h
  rw [definitionOf?_eq] at selected
  exact of_decide_eq_true (Option.filter_eq_some_iff.1 selected).2

theorem kind_of_isFound {root : Node} {source : SourceLines} {site : DefinitionSite}
    {owner : Option Text} (h : rules.IsFound root source site owner) :
    site.node.kind = "function_definition" := by
  rcases h with ⟨mem, -⟩ | ⟨-, -, body, -, mem, -⟩
  · exact kind_of_mem_functions mem
  · exact kind_of_mem_functions mem

end Python

/-! ## All languages -/

/-- The tokens of every definition that is extracted are the texts of the leaves of its function,
each leaf once, in their order and apart; in Python all but the string that opens the body. -/
theorem Language.isTokenized_of_mem_extract (l : Language) {root : Node} {code : Text}
    (nested : root.IsNested code) (numbered : root.IsNumbered) {options : ExtractOptions}
    {ds : List Definition} (h : l.rules.extract root code options = .ok ds) {d : Definition}
    (hd : d ∈ ds) :
    ∃ site owner missing kept, l.rules.IsFound root (.ofText code) site owner ∧
      l.rules.extractDefinition? site owner (.ofText code) options = some d ∧
      d.IsTokenized l.rules.stringKinds code site.node missing kept ∧
      (l ≠ .python → missing = []) ∧
      (l = .python → ∃ body literal, site.node.child? "body" = some body ∧
        Python.docNode? site.node = some literal ∧ missing = [literal] ∧
        (body.kind ≠ "string" → literal.IsLeafIn site.node l.rules.stringKinds)) := by
  obtain ⟨site, owner, found, made⟩ := LanguageRules.found_of_mem_extract h hd
  have inside := found.isIn l.lawful_rules
  refine ⟨site, owner, l.rules.docNodes site.node, _, found, made,
    LanguageRules.isTokenized nested numbered inside ?_ made, ?_, ?_⟩
  · intro n mem
    cases l with
    | python => exact (Python.isIn_of_docNode? (Option.mem_toList.1 mem)).trans inside
    | _ => exact absurd mem List.not_mem_nil
  · intro other
    cases l with
    | python => exact absurd rfl other
    | _ => rfl
  · rintro rfl
    obtain ⟨literal, hl⟩ := Python.exists_docNode? made
    obtain ⟨body, -, hbody, -⟩ := Python.docNode?_eq_some.1 hl
    refine ⟨body, literal, hbody, hl, ?_, fun kind => ?_⟩
    · show (Python.docNode? site.node).toList = [literal]
      rw [hl, Option.toList_some]
    · exact Python.isLeafIn_of_docNode? (numbered.of_isIn inside)
        (Python.kind_of_isFound found) hbody kind hl

namespace Python

/-- A function with two strings, the first of which documents it. -/
def quotedCode : Text := "def f():\n    \"\"\"Pads.\"\"\"\n    return 's'\n".toList

/-- The syntax tree of `quotedCode`. -/
def quotedTree : Node :=
  .mk ⟨"module", true, 0, 40, ⟨0, 0⟩, ⟨3, 0⟩, none, 0⟩ [
    .mk ⟨"function_definition", true, 0, 39, ⟨0, 0⟩, ⟨2, 14⟩, none, 1⟩ [
      .mk ⟨"def", false, 0, 3, ⟨0, 0⟩, ⟨0, 3⟩, none, 2⟩ [],
      .mk ⟨"identifier", true, 4, 5, ⟨0, 4⟩, ⟨0, 5⟩, some "name", 3⟩ [],
      .mk ⟨"parameters", true, 5, 7, ⟨0, 5⟩, ⟨0, 7⟩, some "parameters", 4⟩ [
        .mk ⟨"(", false, 5, 6, ⟨0, 5⟩, ⟨0, 6⟩, none, 5⟩ [],
        .mk ⟨")", false, 6, 7, ⟨0, 6⟩, ⟨0, 7⟩, none, 6⟩ []],
      .mk ⟨":", false, 7, 8, ⟨0, 7⟩, ⟨0, 8⟩, none, 7⟩ [],
      .mk ⟨"block", true, 13, 39, ⟨1, 4⟩, ⟨2, 14⟩, some "body", 8⟩ [
        .mk ⟨"expression_statement", true, 13, 24, ⟨1, 4⟩, ⟨1, 15⟩, none, 9⟩ [
          .mk ⟨"string", true, 13, 24, ⟨1, 4⟩, ⟨1, 15⟩, none, 10⟩ [
            .mk ⟨"string_start", true, 13, 16, ⟨1, 4⟩, ⟨1, 7⟩, none, 11⟩ [],
            .mk ⟨"string_content", true, 16, 21, ⟨1, 7⟩, ⟨1, 12⟩, none, 12⟩ [],
            .mk ⟨"string_end", true, 21, 24, ⟨1, 12⟩, ⟨1, 15⟩, none, 13⟩ []]],
        .mk ⟨"return_statement", true, 29, 39, ⟨2, 4⟩, ⟨2, 14⟩, none, 14⟩ [
          .mk ⟨"return", false, 29, 35, ⟨2, 4⟩, ⟨2, 10⟩, none, 15⟩ [],
          .mk ⟨"string", true, 36, 39, ⟨2, 11⟩, ⟨2, 14⟩, none, 16⟩ [
            .mk ⟨"string_start", true, 36, 37, ⟨2, 11⟩, ⟨2, 12⟩, none, 17⟩ [],
            .mk ⟨"string_content", true, 37, 38, ⟨2, 12⟩, ⟨2, 13⟩, none, 18⟩ [],
            .mk ⟨"string_end", true, 38, 39, ⟨2, 13⟩, ⟨2, 14⟩, none, 19⟩ []]]]]]

/-- What is extracted from `quotedTree`. -/
def quotedDefinition : Definition where
  identifier := ['f']
  parameters := .empty
  function := "def f():\n    \"\"\"Pads.\"\"\"\n    return 's'".toList
  functionTokens := ["def", "f", "(", ")", ":", "return", "'s'"].map String.toList
  writtenDocstring := "Pads.".toList
  docstring := "Pads.".toList
  docstringTokens := ["Pads", "."].map String.toList
  docstringFields := {}
  comments := []
  start := ⟨0, 0⟩
  stop := ⟨2, 14⟩

theorem isTokenized_quotedDefinition :
    quotedTree.IsNested quotedCode ∧ quotedTree.IsNumbered ∧
      rules.extract quotedTree quotedCode {} = .ok [quotedDefinition] ∧
      ∃ (site : DefinitionSite) (body literal : Node) (kept : List Node),
        site.node.child? "body" = some body ∧ docNode? site.node = some literal ∧
        quotedDefinition.IsTokenized ["string"] quotedCode site.node [literal] kept ∧
        (body.kind ≠ "string" → literal.IsLeafIn site.node ["string"]) := by
  have nested : quotedTree.IsNested quotedCode := .of_every (.of_every (by decide)) (by decide)
  have numbered : quotedTree.IsNumbered := by unfold Node.IsNumbered; decide +kernel
  have extracted : rules.extract quotedTree quotedCode {} = .ok [quotedDefinition] := by
    decide +kernel
  obtain ⟨site, -, missing, kept, -, -, tokenized, -, python⟩ :=
    Language.isTokenized_of_mem_extract .python nested numbered extracted List.mem_cons_self
  obtain ⟨body, literal, hbody, hl, rfl, leaf⟩ := python rfl
  exact ⟨nested, numbered, extracted, site, body, literal, kept, hbody, hl, tokenized, leaf⟩

end Python

end DocHarvest
