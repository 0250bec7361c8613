import DocHarvest.Proofs.Language.Lawful
import DocHarvest.Proofs.Source.Rows
import DocHarvest.Proofs.Source.Runs

/-!
# Comments before definitions

Five languages take documentation from comments before a definition. They differ in what their
comments look like, a `CommentForm`, and agree otherwise: `CommentForm.comments` finds the comments
of a definition, and their texts without markers, joined by line feeds and trimmed, are its
documentation (`Language.docComment_eq`).

`Language.documents_of_docComment_ne_nil` says where these comments are: they are siblings that
follow one another up to what stands before the definition, without blank lines among them or behind
them.
-/

namespace DocHarvest

open Text Doc

/-! ## Definitions of a tree -/

/-- A definition that the rules find in a tree, with its container: the root for one outside any
class, or the body of a class. -/
inductive LanguageRules.Finds (rules : LanguageRules) (root : Node) : Site → DefinitionSite → Prop
  | outside {d : DefinitionSite} : d ∈ rules.moduleFunctions root → Finds rules root { node := root } d
  | inClass {cls : Node} {body : Site} {d : DefinitionSite} : cls ∈ rules.classes root →
      rules.classBody cls = some body → d ∈ rules.functions body → Finds rules root body d

/-- The definitions of a container are anchored in it, and the body of a class is a child of the
class. -/
structure LanguageRules.Anchored (rules : LanguageRules) : Prop where
  functions : ∀ {container : Site} {d : DefinitionSite},
    d ∈ rules.functions container → d.AnchoredIn container
  moduleFunctions : ∀ {root : Node} {d : DefinitionSite},
    d ∈ rules.moduleFunctions root → d.AnchoredIn { node := root }
  classBody : ∀ {cls : Node} {body : Site}, rules.classBody cls = some body →
    body ∈ Site.children cls

theorem Java.anchoredIn_of_mem_functions {container : Site} {d : DefinitionSite}
    (h : d ∈ Java.rules.functions container) : d.AnchoredIn container := by
  simp only [rules] at h
  exact anchoredIn_of_mem_definitionsIn h

theorem JavaScript.anchoredIn_of_mem_methods {container : Site} {d : DefinitionSite}
    (h : d ∈ methods container) : d.AnchoredIn container :=
  anchoredIn_of_mem_definitionsIn h

theorem Go.anchoredIn_of_mem_functions {container : Site} {d : DefinitionSite}
    (h : d ∈ functions container) : d.AnchoredIn container :=
  anchoredIn_of_mem_definitionsIn h

theorem Ruby.anchoredIn_of_mem_functions {container : Site} {d : DefinitionSite}
    (h : d ∈ functions container) : d.AnchoredIn container :=
  anchoredIn_of_mem_definitionsIn h

theorem Ruby.mem_children_of_bodySite? {n : Node} {body : Site} (h : bodySite? n = some body) :
    body ∈ Site.children n := by
  rcases Option.or_eq_some_iff.1 h with h | ⟨-, h⟩
  · exact List.mem_of_find?_eq_some h
  · exact List.mem_of_find?_eq_some h

theorem JavaScript.anchored_rules : JavaScript.rules.Anchored where
  functions := anchoredIn_of_mem_methods
  moduleFunctions h := anchoredIn_of_mem_definitionsIn h
  classBody h := List.mem_of_find?_eq_some h

theorem Language.anchored_rules : ∀ l : Language, l.rules.Anchored
  | python => {
      functions := anchoredIn_of_mem_definitionsIn
      moduleFunctions := anchoredIn_of_mem_definitionsIn
      classBody := List.mem_of_find?_eq_some }
  | java => {
      functions := Java.anchoredIn_of_mem_functions
      moduleFunctions := fun h => absurd h List.not_mem_nil
      classBody := List.mem_of_find?_eq_some }
  | javaScript => JavaScript.anchored_rules
  | typeScript => { JavaScript.anchored_rules with }
  | go => {
      functions := Go.anchoredIn_of_mem_functions
      moduleFunctions := Go.anchoredIn_of_mem_functions
      classBody := List.mem_of_find?_eq_some }
  | ruby => {
      functions := Ruby.anchoredIn_of_mem_functions
      moduleFunctions := Ruby.anchoredIn_of_mem_functions
      classBody := Ruby.mem_children_of_bodySite? }

namespace LanguageRules.Finds

variable {l : Language} {root : Node} {container : Site} {d : DefinitionSite}

theorem anchoredIn (h : l.rules.Finds root container d) : d.AnchoredIn container := by
  cases h with
  | outside mem => exact l.anchored_rules.moduleFunctions mem
  | inClass _ _ mem => exact l.anchored_rules.functions mem

theorem standsIn (h : l.rules.Finds root container d) : container.StandsIn root := by
  cases h with
  | outside => exact .inl rfl
  | inClass cls body _ =>
    exact .inr ⟨_, l.lawful_rules.classes_isIn cls, l.anchored_rules.classBody body⟩

end LanguageRules.Finds

/-! ## Forms of comments -/

/-- What the comments of a language look like that can be documentation. -/
structure CommentForm where
  /-- The kind of node that they are. -/
  kind : String
  /-- What a comment begins with that is documentation all by itself. -/
  blockLead : String
  /-- What comments begin with that are documentation in runs. -/
  lineLead? : Option String

namespace CommentForm

variable (form : CommentForm) (source : SourceLines)

def isBlock (n : Node) : Bool := beginsWith (n.text source) form.blockLead.toList

def isLine (n : Node) : Bool :=
  n.kind = form.kind && form.lineLead?.any fun lead => beginsWith (n.text source) lead.toList

/-- The comments that are the documentation of a definition: a block comment, or a run of line
comments. -/
def comments (d : DefinitionSite) : List Node :=
  match d.previous with
  | none => []
  | some last =>
    if last.node.kind = form.kind && isAdjacent last.node d.anchor then
      if form.isBlock source last.node then [last.node] else commentRun last (form.isLine source)
    else []

/-- The documentation of a definition, with its markers taken off by `strip`. -/
def read (strip : Text → Text) (d : DefinitionSite) : Text :=
  match d.previous with
  | none => []
  | some last =>
    if last.node.kind = form.kind && isAdjacent last.node d.anchor then
      if form.isBlock source last.node then trim (strip (last.node.text source))
      else
        trim (joinLines ((commentRun last (form.isLine source)).map fun c => strip (c.text source)))
    else []

/-- Documentation is the text of its comments. -/
theorem read_eq (strip : Text → Text) (d : DefinitionSite) :
    form.read source strip d =
      trim (joinLines ((form.comments source d).map fun c => strip (c.text source))) := by
  unfold read comments
  split
  · rfl
  · split
    · split <;> rfl
    · rfl

/-- Without line comments there are no runs. -/
theorem commentRun_eq_nil (h : form.lineLead? = none) (last : Site) :
    commentRun last (form.isLine source) = [] := by
  have noLine : ∀ n, form.isLine source n = false := fun n => by simp [isLine, h]
  obtain ⟨lead, -, run⟩ := isRun_commentRun last (form.isLine source)
  refine List.eq_nil_iff_forall_not_mem.2 fun n hn => ?_
  exact absurd ((noLine n).symm.trans (run.comments n hn)) Bool.false_ne_true

/-- The comments of a definition are read from what stands right before it, `last`; `lead` are the
siblings before the first of them. -/
structure ReadsFrom (d : DefinitionSite) (last : Site) (lead cs : List Node) : Prop where
  previous : d.previous = some last
  upTo : last.upTo = lead ++ cs
  adjacent : isAdjacent last.node d.anchor = true
  kind : ∀ c ∈ cs, c.kind = form.kind
  shape : form.isBlock source last.node = true ∧ cs = [last.node] ∨
    form.isBlock source last.node = false ∧ IsRun (form.isLine source) lead cs

variable {form source}

theorem kind_of_isLine {n : Node} (h : form.isLine source n = true) : n.kind = form.kind := by
  simp only [isLine, Bool.and_eq_true, decide_eq_true_eq] at h
  exact h.1

theorem comments_eq_commentRun {d : DefinitionSite} {last : Site} (previous : d.previous = some last)
    (adjacent : isAdjacent last.node d.anchor = true) (line : form.isLine source last.node = true)
    (single : form.isBlock source last.node = false) :
    form.comments source d = commentRun last (form.isLine source) := by
  simp [comments, previous, adjacent, kind_of_isLine line, single]

theorem exists_readsFrom {d : DefinitionSite} (h : form.comments source d ≠ []) :
    ∃ last lead, form.ReadsFrom source d last lead (form.comments source d) := by
  unfold comments at h ⊢
  split at h
  · exact absurd rfl h
  · next last previous =>
    split at h
    · next found =>
      rw [if_pos found]
      obtain ⟨kind, adjacent⟩ : last.node.kind = form.kind ∧
          isAdjacent last.node d.anchor = true := by simpa using found
      cases block : form.isBlock source last.node with
      | true => exact ⟨last, last.before.reverse, previous, rfl, adjacent, by simpa, .inl ⟨block, rfl⟩⟩
      | false =>
        obtain ⟨lead, upTo, run⟩ := isRun_commentRun last (form.isLine source)
        exact ⟨last, lead, previous, upTo, adjacent,
          fun c hc => kind_of_isLine (run.comments c hc), .inr ⟨block, run⟩⟩
    · exact absurd rfl h

namespace ReadsFrom

variable {d : DefinitionSite} {last : Site} {lead cs : List Node}

theorem getLast?_eq (h : form.ReadsFrom source d last lead cs) (ne : cs ≠ []) :
    cs.getLast? = some last.node :=
  Site.getLast?_of_upTo_eq h.upTo ne

theorem rows (h : form.ReadsFrom source d last lead cs) :
    cs.IsChain fun a b => b.label.start.row = a.label.stop.row + 1 := by
  rcases h.shape with ⟨-, rfl⟩ | ⟨-, run⟩
  · exact List.isChain_singleton _
  · exact run.rows

end ReadsFrom

end CommentForm

/-! ## The languages -/

/-- Every block comment is documentation of its own; a line comment is of another kind. -/
def Java.commentForm : CommentForm := ⟨"block_comment", "", none⟩

/-- Line comments are never documentation. -/
def JavaScript.commentForm : CommentForm := ⟨"comment", "/*", none⟩

def Go.commentForm : CommentForm := ⟨"comment", "/*", some "//"⟩

def Ruby.commentForm : CommentForm := ⟨"comment", "=begin", some "#"⟩

/-- What documentation looks like in the languages that write it in comments. -/
def Language.commentForm? : Language → Option CommentForm
  | python => none
  | java => some Java.commentForm
  | javaScript | typeScript => some JavaScript.commentForm
  | go => some Go.commentForm
  | ruby => some Ruby.commentForm

theorem Java.docComment_eq (d : DefinitionSite) (source : SourceLines) :
    docComment d source = commentForm.read source stripSlashMarkers d := by
  unfold docComment CommentForm.read
  cases d.previous <;> rfl

theorem JavaScript.docComment_eq (d : DefinitionSite) (source : SourceLines) :
    docComment d source = commentForm.read source stripSlashMarkers d := by
  unfold docComment CommentForm.read
  cases d.previous with
  | none => rfl
  | some last =>
    have empty : trim (joinLines []) = [] := rfl
    simp only [commentForm.commentRun_eq_nil source rfl last, List.map_nil, empty]
    -- one test for both conditions here, two nested ones there
    change (if (decide (last.node.kind = commentForm.kind) && commentForm.isBlock source last.node &&
      isAdjacent last.node d.anchor) = true then _ else _) = _
    cases isAdjacent last.node d.anchor <;> cases commentForm.isBlock source last.node <;> simp

/-- The documentation of a definition is made of comments in the same way in every language. -/
theorem Language.docComment_eq {l : Language} {form : CommentForm}
    (hform : l.commentForm? = some form) (d : DefinitionSite) (source : SourceLines) :
    l.rules.docComment d source = form.read source l.rules.stripComment d := by
  cases l with
  | python => exact absurd hform nofun
  | java => cases hform; exact Java.docComment_eq d source
  | javaScript => cases hform; exact JavaScript.docComment_eq d source
  | typeScript => cases hform; exact JavaScript.docComment_eq d source
  | go => cases hform; rfl
  | ruby => cases hform; rfl

/-! ## Where documentation stands -/

/-- Comments that document a definition in a container. -/
structure CommentForm.Documents (form : CommentForm) (source : Text) (root : Node) (container : Site)
    (d : DefinitionSite) (cs : List Node) : Prop where
  /-- They are siblings one after another. Behind the last of them comes the anchor, or a container
  that the anchor is the first child of and starts with. -/
  siblings : ∃ parent lead next rest, parent.IsIn root ∧
    parent.children = lead ++ cs ++ next :: rest ∧
    (parent = container.node ∧ next = d.anchor ∨
      next = container.node ∧ container.node.children.head? = some d.anchor ∧
        container.node.label.startByte = d.anchor.label.startByte)
  /-- The last of them is what stands right before the definition. -/
  last : ∃ last, d.previous = some last ∧ cs.getLast? = some last.node
  kind : ∀ c ∈ cs, c.kind = form.kind
  block : ∀ last ∈ cs.getLast?, form.isBlock (.ofText source) last = true → cs = [last]
  /-- Each of them ends before the next one, and the last one before the anchor, with at most one
  line feed between them. -/
  close : (cs ++ [d.anchor]).IsChain fun a b => a.label.endByte ≤ b.label.startByte ∧
    newlinesBetween source a.label.endByte b.label.startByte ≤ 1

theorem CommentForm.ReadsFrom.documents {form : CommentForm} {source : Text} {root : Node}
    {container last : Site} {d : DefinitionSite} {lead cs : List Node}
    (h : form.ReadsFrom (.ofText source) d last lead cs) (ne : cs ≠ [])
    (placed : root.IsPlaced source) (anchored : d.AnchoredIn container)
    (stands : container.StandsIn root) : form.Documents source root container d cs := by
  obtain ⟨parent, next, rest, inside, children, behind⟩ :=
    anchored.exists_children_eq stands h.previous
  have siblings : parent.children = lead ++ cs ++ next :: rest := by rw [children, h.upTo]
  have child : ∀ c ∈ cs, c.IsIn root := fun c hc => .child inside (by simp [siblings, hc])
  have anchorIn := anchored.anchor_isIn stands
  have adjacent : d.anchor.label.start.row ≤ last.node.label.stop.row + 1 ∧
      last.node.label.endByte ≤ d.anchor.label.startByte := by
    simpa [isAdjacent] using h.adjacent
  refine ⟨⟨parent, lead, next, rest, inside, siblings, behind⟩,
    ⟨last, h.previous, h.getLast?_eq ne⟩, h.kind, ?_, ?_⟩
  · rw [h.getLast?_eq ne]
    rintro _ ⟨⟩ block
    rcases h.shape with ⟨-, single⟩ | ⟨line, -⟩
    · exact single
    · exact absurd (block.symm.trans line) nofun
  · refine List.isChain_append.2 ⟨h.rows.imp_of_mem_imp fun a b ha hb below => ?_,
      List.isChain_singleton _, ?_⟩
    · have apart := placed.endByte_le_of_row_lt (child a ha) (child b hb) (by omega)
      exact ⟨apart, placed.newlinesBetween_le_one (child a ha) (child b hb) apart (by omega)⟩
    · rw [h.getLast?_eq ne]
      rintro _ ⟨⟩ _ ⟨⟩
      have lastIn : last.node.IsIn root := child _ (List.mem_of_getLast? (h.getLast?_eq ne))
      exact ⟨adjacent.2, placed.newlinesBetween_le_one lastIn anchorIn adjacent.2 adjacent.1⟩

/-- Documentation that is not empty is read from comments. -/
theorem Language.comments_ne_nil {l : Language} {form : CommentForm}
    (hform : l.commentForm? = some form) {d : DefinitionSite} {source : SourceLines}
    (ne : l.rules.docComment d source ≠ []) : form.comments source d ≠ [] := by
  intro none
  rw [docComment_eq hform, CommentForm.read_eq, none] at ne
  exact ne rfl

/-- A definition is anchored in its container, and its documentation is the text of comments that
stand right before it. -/
theorem Language.documents_of_docComment_ne_nil {l : Language} {form : CommentForm}
    (hform : l.commentForm? = some form) {source : Text} {root : Node}
    (placed : root.IsPlaced source) {container : Site} {d : DefinitionSite}
    (found : l.rules.Finds root container d) :
    d.AnchoredIn container ∧
      (l.rules.docComment d (.ofText source) ≠ [] →
        ∃ cs, form.Documents source root container d cs ∧
          l.rules.docComment d (.ofText source) =
            trim (joinLines (cs.map fun c => l.rules.stripComment (c.text (.ofText source))))) := by
  refine ⟨found.anchoredIn, fun ne => ?_⟩
  obtain ⟨last, lead, reads⟩ := CommentForm.exists_readsFrom (comments_ne_nil hform ne)
  refine ⟨_, reads.documents (comments_ne_nil hform ne) placed found.anchoredIn found.standsIn, ?_⟩
  rw [docComment_eq hform, CommentForm.read_eq]

/-- A Ruby class with a method below two lines of comment. -/
def Ruby.paddedCode : Text := "class A\n  # Pads\n  # it\n  def f\n  end\nend\n".toList

def Ruby.paddedMethod : Node :=
  .mk ⟨"method", true, 26, 37, ⟨3, 2⟩, ⟨4, 5⟩, none, 7⟩ [
    .mk ⟨"def", false, 26, 29, ⟨3, 2⟩, ⟨3, 5⟩, none, 8⟩ [],
    .mk ⟨"identifier", true, 30, 31, ⟨3, 6⟩, ⟨3, 7⟩, some "name", 9⟩ [],
    .mk ⟨"end", false, 34, 37, ⟨4, 2⟩, ⟨4, 5⟩, none, 10⟩ []]

/-- The class of `paddedCode`. The method is the first child of its body, and the comments stand
before the body. -/
def Ruby.paddedClass : Node :=
  .mk ⟨"class", true, 0, 41, ⟨0, 0⟩, ⟨5, 3⟩, none, 1⟩ [
    .mk ⟨"class", false, 0, 5, ⟨0, 0⟩, ⟨0, 5⟩, none, 2⟩ [],
    .mk ⟨"constant", true, 6, 7, ⟨0, 6⟩, ⟨0, 7⟩, some "name", 3⟩ [],
    .mk ⟨"comment", true, 10, 16, ⟨1, 2⟩, ⟨1, 8⟩, none, 4⟩ [],
    .mk ⟨"comment", true, 19, 23, ⟨2, 2⟩, ⟨2, 6⟩, none, 5⟩ [],
    .mk ⟨"body_statement", true, 26, 37, ⟨3, 2⟩, ⟨4, 5⟩, some "body", 6⟩ [paddedMethod],
    .mk ⟨"end", false, 38, 41, ⟨5, 0⟩, ⟨5, 3⟩, none, 11⟩ []]

def Ruby.paddedTree : Node :=
  .mk ⟨"program", true, 0, 42, ⟨0, 0⟩, ⟨6, 0⟩, none, 0⟩ [paddedClass]

theorem Ruby.isPlaced_paddedTree : paddedTree.IsPlaced paddedCode := .of_every (by decide)

theorem Ruby.finds_paddedMethod : ∃ body d, Language.ruby.rules.Finds paddedTree body d ∧
    d.node = paddedMethod ∧ docComment d (.ofText paddedCode) = "Pads\nit".toList := by
  have cls : paddedClass ∈ Language.ruby.rules.classes paddedTree := by
    simp [Language.rules, rules, Node.ofKinds, Node.findKinds, Node.isNamedOf, Node.isOf,
      Node.kind, Node.label, Node.named, Node.children, paddedTree, paddedClass, paddedMethod]
  obtain ⟨body, hbody⟩ : ∃ body, bodySite? paddedClass = some body := ⟨_, rfl⟩
  obtain ⟨d, hd, node, text⟩ : ∃ d ∈ functions body, d.node = paddedMethod ∧
      docComment d (.ofText paddedCode) = "Pads\nit".toList := by
    obtain rfl := Option.some.inj hbody
    exact ⟨_, List.mem_cons_self, rfl, by decide +kernel⟩
  exact ⟨body, d, .inClass cls hbody hd, node, text⟩

theorem Ruby.documents_paddedMethod :
    paddedTree.IsPlaced paddedCode ∧
      ∃ body d cs, Language.ruby.rules.Finds paddedTree body d ∧ d.node = paddedMethod ∧
        d.AnchoredIn body ∧ commentForm.Documents paddedCode paddedTree body d cs ∧
        trim (joinLines (cs.map fun c => stripHashMarkers (c.text (.ofText paddedCode)))) =
          "Pads\nit".toList := by
  obtain ⟨body, d, found, node, text⟩ := finds_paddedMethod
  have ne : docComment d (.ofText paddedCode) ≠ [] := by
    rw [text]
    decide
  obtain ⟨anchored, documented⟩ :=
    Language.documents_of_docComment_ne_nil (l := .ruby) rfl isPlaced_paddedTree found
  obtain ⟨cs, documents, eq⟩ := documented ne
  exact ⟨isPlaced_paddedTree, body, d, cs, found, node, anchored, documents, eq.symm.trans text⟩

end DocHarvest
