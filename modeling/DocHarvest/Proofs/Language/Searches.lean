import Mathlib.Data.List.Flatten
import DocHarvest.Proofs.Language.DocComments
import DocHarvest.Proofs.Language.Examined
import DocHarvest.Proofs.Source.Nodes

/-!
# Where definitions are searched for

A search takes no node of a tree more often than the tree has it (`Language.subperm_examined`); so
where the nodes have distinct places, no definition is examined twice. In all languages but Ruby a
search looks at the top of a file and into the classes that stand there (`LanguageRules.IsFlat`); in
Ruby it looks into the classes and modules at any depth (`Ruby.exists_mem_examined`).
-/

namespace DocHarvest

/-! ## Containers -/

theorem Site.map_node_ofSiblings (before ns : List Node) : (ofSiblings before ns).map node = ns := by
  induction ns generalizing before with
  | nil => rfl
  | cons n ns ih => rw [ofSiblings, List.map_cons, ih]

theorem Site.map_node_children (n : Node) : (children n).map node = n.children :=
  map_node_ofSiblings [] n.children

theorem map_node_definitionsIn (container : Site) (select : Node → Option Node) :
    (definitionsIn container select).map (·.node) = container.node.children.filterMap select := by
  rw [← Site.map_node_children container.node, List.filterMap_map, definitionsIn, List.map_filterMap]
  congr 1
  funext anchor
  rw [Option.map_map]
  exact Option.map_id'

/-- A selection that looks no further than the nodes it is given takes none of theirs twice. -/
theorem filterMap_sublist_nodes {select : Node → Option Node}
    (inside : ∀ {n m : Node}, select n = some m → m.IsIn n) (ns : List Node) :
    ((ns.filterMap select).flatMap Node.nodes).Sublist (ns.flatMap Node.nodes) := by
  induction ns with
  | nil => exact List.Sublist.refl _
  | cons n ns ih =>
    rw [List.flatMap_cons]
    cases h : select n with
    | none =>
      rw [List.filterMap_cons_none h]
      exact ih.trans (List.sublist_append_right _ _)
    | some m =>
      rw [List.filterMap_cons_some h, List.flatMap_cons]
      exact (inside h).nodes_sublist.append ih

namespace LanguageRules

variable (rules : LanguageRules)

/-- The functions right inside the body of a class. -/
def methodsOf (cls : Node) : List Node :=
  match rules.classBody cls with
  | none => []
  | some body => (rules.functions body).map (·.node)

variable {rules}

theorem map_node_examined (root : Node) (source : SourceLines) :
    (rules.examined root source).map (·.1.node) =
      (rules.moduleFunctions root).map (·.node) ++ (rules.classes root).flatMap rules.methodsOf := by
  rw [examined, List.map_append, List.map_map, List.map_flatMap]
  congr 2
  funext cls
  rw [examinedIn, methodsOf]
  cases rules.classBody cls with
  | none => rfl
  | some body => rw [List.map_map]; rfl

/-! ## Flat languages -/

/-- The functions and the classes of a file are among the nodes that `top` finds at the top of its
tree, and the methods of a class are those that `method` finds in its body. -/
structure IsFlat (rules : LanguageRules) (top : Node → Option Node) (isFunction isClass : Node → Bool)
    (method : Node → Option Node) : Prop where
  top_isIn : ∀ {n m : Node}, top n = some m → m.IsIn n
  method_isIn : ∀ {n m : Node}, method n = some m → m.IsIn n
  apart : ∀ n, isFunction n = true → isClass n = false
  moduleFunctions : ∀ root, rules.moduleFunctions root =
    definitionsIn { node := root } fun n => (top n).filter isFunction
  classes : ∀ root, rules.classes root = (root.children.filterMap top).filter isClass
  classBody : ∀ {cls : Node} {body : Site}, rules.classBody cls = some body →
    body.node ∈ cls.children
  functions : ∀ container, rules.functions container = definitionsIn container method

namespace IsFlat

variable {top method : Node → Option Node} {isFunction isClass : Node → Bool}

theorem methodsOf_sublist (flat : rules.IsFlat top isFunction isClass method) (cls : Node) :
    (rules.methodsOf cls).Sublist cls.nodes := by
  unfold methodsOf
  cases hb : rules.classBody cls with
  | none => exact List.nil_sublist _
  | some body =>
    have found : ((rules.functions body).map (·.node)).Sublist
        (body.node.children.flatMap Node.nodes) := by
      rw [flat.functions, map_node_definitionsIn]
      exact (Node.sublist_flatMap_nodes _).trans (filterMap_sublist_nodes flat.method_isIn _)
    have inBody : (body.node.children.flatMap Node.nodes).Sublist body.node.nodes := by
      rw [Node.nodes_eq body.node]
      exact List.sublist_cons_self _ _
    exact (found.trans inBody).trans (Node.sublist_nodes_of_mem_children (flat.classBody hb))

/-- Of every node at the top, either the node itself is examined or its methods are. -/
theorem subperm_top (flat : rules.IsFlat top isFunction isClass method) (ns : List Node) :
    (ns.filter isFunction ++ (ns.filter isClass).flatMap rules.methodsOf).Subperm
      (ns.flatMap Node.nodes) := by
  induction ns with
  | nil => exact List.Subperm.refl _
  | cons n ns ih =>
    rw [List.flatMap_cons]
    cases hf : isFunction n with
    | true =>
      have self : [n].Subperm n.nodes := (List.singleton_sublist.2 n.self_mem_nodes).subperm
      rw [List.filter_cons_of_pos hf, List.filter_cons_of_neg (by simp [flat.apart n hf])]
      exact self.append ih
    | false =>
      rw [List.filter_cons_of_neg (by simp [hf])]
      cases hc : isClass n with
      | true =>
        rw [List.filter_cons_of_pos hc, List.flatMap_cons]
        exact (List.perm_append_comm_assoc _ _ _).subperm.trans
          ((flat.methodsOf_sublist n).subperm.append ih)
      | false =>
        rw [List.filter_cons_of_neg (by simp [hc])]
        exact ih.trans (List.sublist_append_right _ _).subperm

theorem subperm_examined (flat : rules.IsFlat top isFunction isClass method) (root : Node)
    (source : SourceLines) :
    ((rules.examined root source).map (·.1.node)).Subperm root.nodes := by
  rw [map_node_examined, flat.moduleFunctions, map_node_definitionsIn, ← List.filter_filterMap,
    flat.classes, Node.nodes_eq]
  exact ((flat.subperm_top _).trans (filterMap_sublist_nodes flat.top_isIn _).subperm).trans
    (List.sublist_cons_self root _).subperm

end IsFlat

end LanguageRules

/-! ## The flat languages -/

theorem Java.isFlat : rules.IsFlat some (fun _ => false) (·.kind = "class_declaration")
    fun n => if n.kind = "method_declaration" then some n else none where
  top_isIn h := Option.some.inj h ▸ .refl _
  method_isIn := isIn_of_ite
  apart _ h := absurd h nofun
  moduleFunctions root := by simp [rules, definitionsIn]
  classes root := by simp [rules]
  classBody h := Site.mem_of_mem_children (List.mem_of_find?_eq_some h)
  functions _ := rfl

theorem Go.isFlat : rules.IsFlat some (·.isOf ["function_declaration", "method_declaration"])
    (fun _ => false)
    fun n => if n.isOf ["function_declaration", "method_declaration"] then some n else none where
  top_isIn h := Option.some.inj h ▸ .refl _
  method_isIn := isIn_of_ite
  apart _ _ := rfl
  moduleFunctions _ := rfl
  classes root := by simp [rules]
  classBody h := Site.mem_of_mem_children (List.mem_of_find?_eq_some h)
  functions _ := rfl

/-- What a node defines, perhaps behind decorators. -/
def Python.undecorated? (n : Node) : Option Node :=
  if n.kind = "decorated_definition" then n.child? "definition" else some n

theorem Python.definitionOf?_eq (kind : String) :
    definitionOf? kind = fun n => (undecorated? n).filter (·.kind = kind) := by
  funext n
  unfold definitionOf? undecorated?
  split
  · cases n.child? "definition" with
    | none => rfl
    | some definition => simp [Option.filter_some]
  · simp [Option.filter_some]

theorem Python.isIn_of_undecorated? {n m : Node} (h : undecorated? n = some m) : m.IsIn n := by
  unfold undecorated? at h
  split at h
  · exact Node.isIn_of_child? h
  · exact Option.some.inj h ▸ .refl n

theorem Python.isFlat : rules.IsFlat undecorated? (·.kind = "function_definition")
    (·.kind = "class_definition") (definitionOf? "function_definition") where
  top_isIn := isIn_of_undecorated?
  method_isIn := isIn_of_definitionOf?
  apart n h := by simp_all
  moduleFunctions root := by rw [← definitionOf?_eq]; rfl
  classes root := by
    rw [List.filter_filterMap, ← definitionOf?_eq]
    rfl
  classBody h := Site.mem_of_mem_children (List.mem_of_find?_eq_some h)
  functions _ := rfl

/-- Whether a declaration at the top level defines a function. -/
def JavaScript.definesFunction (declaration : Node) : Bool :=
  declaration.isOf ["function_declaration", "generator_function_declaration"] ||
    declaration.isOf valueDeclarations && (functionDeclarator? declaration).isSome

theorem JavaScript.topLevelFunction?_eq :
    topLevelFunction? = fun n => (exported? n).filter definesFunction := by
  funext n
  unfold topLevelFunction?
  cases exported? n with
  | none => rfl
  | some declaration =>
    rw [Option.bind_eq_bind, Option.bind_some, Option.filter_some, definesFunction]
    cases declaration.isOf ["function_declaration", "generator_function_declaration"] with
    | true => rfl
    | false =>
      cases declaration.isOf valueDeclarations with
      | false => rfl
      | true => cases functionDeclarator? declaration <;> rfl

/-- What defines a function is no class. -/
theorem JavaScript.not_isOf_of_definesFunction {n : Node} (h : definesFunction n = true) :
    n.isOf ["class_declaration"] = false ∧
      n.isOf ["class_declaration", "abstract_class_declaration"] = false := by
  simp only [definesFunction, valueDeclarations, Node.isOf, Bool.or_eq_true, Bool.and_eq_true,
    List.contains_iff_mem, List.mem_cons, List.not_mem_nil, or_false] at h
  rcases h with (h | h) | ⟨h | h, -⟩ <;> simp [Node.isOf, h]

theorem JavaScript.isFlat : rules.IsFlat exported? definesFunction (·.isOf ["class_declaration"])
    fun n => if n.kind = "method_definition" then some n else none where
  top_isIn := isIn_of_exported?
  method_isIn := isIn_of_ite
  apart _ h := (not_isOf_of_definesFunction h).1
  moduleFunctions root := by rw [← topLevelFunction?_eq]; rfl
  classes _ := rfl
  classBody h := Site.mem_of_mem_children (List.mem_of_find?_eq_some h)
  functions _ := rfl

theorem TypeScript.isFlat : rules.IsFlat JavaScript.exported? JavaScript.definesFunction
    (·.isOf ["class_declaration", "abstract_class_declaration"])
    fun n => if n.kind = "method_definition" then some n else none :=
  { JavaScript.isFlat with
    apart := fun _ h => (JavaScript.not_isOf_of_definesFunction h).2
    classes := fun _ => rfl }

/-! ## Ruby -/

theorem Site.map_node_child? (n : Node) (field : String) :
    (child? n field).map node = n.child? field := by
  rw [child?, Node.child?, ← map_node_children n, List.find?_map]
  rfl

theorem Site.map_node_childOf? (n : Node) (kinds : List String) :
    (childOf? n kinds).map node = n.childOf? kinds := by
  rw [childOf?, Node.childOf?, ← map_node_children n, List.find?_map]
  rfl

namespace Ruby

/-- Whether a node is a method. -/
def isMethod (n : Node) : Bool := n.isOf ["method", "singleton_method"]

theorem map_node_functions (container : Site) :
    (functions container).map (·.node) = container.node.children.filter isMethod := by
  rw [functions, map_node_definitionsIn, ← List.filterMap_eq_filter]
  rfl

theorem methodsOf_sublist (cls : Node) :
    (rules.methodsOf cls).Sublist (cls.children.flatMap Node.children) := by
  unfold LanguageRules.methodsOf
  cases hb : rules.classBody cls with
  | none => exact List.nil_sublist _
  | some body =>
    have inside : body.node ∈ cls.children :=
      Site.mem_of_mem_children (mem_children_of_bodySite? hb)
    have found : ((rules.functions body).map (·.node)).Sublist body.node.children := by
      rw [show rules.functions body = functions body from rfl, map_node_functions]
      exact List.filter_sublist
    rw [List.flatMap_def]
    exact found.trans (List.sublist_flatten_of_mem (List.mem_map_of_mem inside))

theorem subperm_examined (root : Node) (source : SourceLines) :
    ((rules.examined root source).map (·.1.node)).Subperm root.nodes := by
  have outside : ((rules.moduleFunctions root).map (·.node)).Sublist root.children := by
    rw [show rules.moduleFunctions root = functions { node := root } from rfl, map_node_functions]
    exact List.filter_sublist
  have inside : ((rules.classes root).flatMap rules.methodsOf).Sublist
      (root.nodes.flatMap fun n => n.children.flatMap Node.children) := by
    rw [show rules.classes root = root.ofKinds ["class", "module"] from rfl, Node.ofKinds_eq]
    exact (List.filter_sublist.flatMap _).trans
      (List.Sublist.flatMap_right _ fun n _ => methodsOf_sublist n)
  rw [LanguageRules.map_node_examined]
  exact (outside.append inside).subperm.trans root.subperm_children_append

/-- A node stands right inside the root of a tree, and has no owner, or right inside the body of a
class or module of the tree, which is its owner. -/
inductive IsOwnedBy (root : Node) (source : SourceLines) : Node → Option Text → Prop
  | outside {n : Node} (child : n ∈ root.children) : IsOwnedBy root source n none
  | inside {n cls body : Node} (isIn : cls.IsIn root) (named : cls.named = true)
      (kind : cls.kind = "class" ∨ cls.kind = "module")
      (isBody : cls.child? "body" = some body ∨
        cls.child? "body" = none ∧ cls.childOf? ["body_statement"] = some body)
      (child : n ∈ body.children) : IsOwnedBy root source n (some (nameOf cls source))

theorem bodySite?_iff {cls body : Node} :
    (∃ site, bodySite? cls = some site ∧ site.node = body) ↔
      cls.child? "body" = some body ∨
        cls.child? "body" = none ∧ cls.childOf? ["body_statement"] = some body := by
  rw [← Option.map_eq_some_iff, bodySite?, Option.map_or, Site.map_node_child?,
    Site.map_node_childOf?, Option.or_eq_some_iff]

theorem mem_classes {root cls : Node} :
    cls ∈ rules.classes root ↔
      cls.IsIn root ∧ cls.named = true ∧ (cls.kind = "class" ∨ cls.kind = "module") := by
  rw [show rules.classes root = root.ofKinds ["class", "module"] from rfl, Node.ofKinds_eq,
    List.mem_filter, Node.mem_nodes]
  simp [Node.isNamedOf, Node.isOf]

theorem exists_mem_functions (container : Site) {n : Node} :
    (∃ site ∈ functions container, site.node = n) ↔
      n ∈ container.node.children ∧ isMethod n = true := by
  rw [← List.mem_filter, ← map_node_functions, List.mem_map]

theorem exists_mem_examined {root : Node} {source : SourceLines} {n : Node}
    {owner : Option Text} :
    (∃ site, (site, owner) ∈ rules.examined root source ∧ site.node = n) ↔
      isMethod n = true ∧ IsOwnedBy root source n owner := by
  simp only [LanguageRules.mem_examined]
  constructor
  · rintro ⟨site, ⟨mem, rfl⟩ | ⟨cls, hcls, body, hbody, mem, rfl⟩, rfl⟩
    · obtain ⟨child, method⟩ := (exists_mem_functions _).1 ⟨site, mem, rfl⟩
      exact ⟨method, .outside child⟩
    · obtain ⟨isIn, named, kind⟩ := mem_classes.1 hcls
      obtain ⟨child, method⟩ := (exists_mem_functions _).1 ⟨site, mem, rfl⟩
      exact ⟨method, .inside isIn named kind (bodySite?_iff.1 ⟨body, hbody, rfl⟩) child⟩
  · rintro ⟨method, owned⟩
    cases owned with
    | outside child =>
      obtain ⟨site, mem, same⟩ := (exists_mem_functions { node := root }).2 ⟨child, method⟩
      exact ⟨site, .inl ⟨mem, rfl⟩, same⟩
    | @inside cls _ isIn named kind isBody child =>
      obtain ⟨body, hbody, rfl⟩ := bodySite?_iff.2 isBody
      obtain ⟨site, mem, same⟩ := (exists_mem_functions _).2 ⟨child, method⟩
      exact ⟨site, .inr ⟨cls, mem_classes.2 ⟨isIn, named, kind⟩, body, hbody, mem, rfl⟩, same⟩

end Ruby

/-! ## All languages -/

theorem Language.subperm_examined (l : Language) (root : Node) (source : SourceLines) :
    ((l.rules.examined root source).map (·.1.node)).Subperm root.nodes := by
  cases l with
  | python => exact Python.isFlat.subperm_examined root source
  | java => exact Java.isFlat.subperm_examined root source
  | javaScript => exact JavaScript.isFlat.subperm_examined root source
  | typeScript => exact TypeScript.isFlat.subperm_examined root source
  | go => exact Go.isFlat.subperm_examined root source
  | ruby => exact Ruby.subperm_examined root source

/-- Where the nodes of a tree have distinct places, no definition is examined twice, and what is
extracted is made of one examined definition each. In Ruby the methods right inside the root and
right inside the body of every class and module are examined, and nothing else. -/
theorem Language.nodup_places_examined (l : Language) {root : Node} (numbered : root.IsNumbered)
    (code : Text) (options : ExtractOptions) :
    ((l.rules.examined root (.ofText code)).map (·.1.node.label.place)).Nodup ∧
    (∀ ds, l.rules.extract root code options = .ok ds ↔
      (∀ cls ∈ l.rules.classes root,
        (l.rules.classMetadata cls (.ofText code)).identifier ≠ []) ∧
      ds = (l.rules.examined root (.ofText code)).filterMap fun entry =>
        l.rules.extractDefinition? entry.1 entry.2 (.ofText code) options) ∧
    ∀ n owner,
      (∃ site, (site, owner) ∈ Ruby.rules.examined root (.ofText code) ∧ site.node = n) ↔
        (n.kind = "method" ∨ n.kind = "singleton_method") ∧
          Ruby.IsOwnedBy root (.ofText code) n owner := by
  refine ⟨?_, ?_, ?_⟩
  · obtain ⟨front, perm, sub⟩ := l.subperm_examined root (.ofText code)
    have places : (front.map (·.label.place)).Nodup := (sub.map _).nodup numbered
    have same := (perm.map (·.label.place)).nodup_iff.1 places
    rwa [List.map_map] at same
  · intro ds
    rw [LanguageRules.extract_eq_ok, LanguageRules.documented,
      LanguageRules.map_snd_documentedAmong]
  · intro n owner
    rw [Ruby.exists_mem_examined, Ruby.isMethod, Node.isOf, List.contains_iff_mem]
    simp only [List.mem_cons, List.not_mem_nil, or_false]

namespace Ruby

/-- Methods of a file, of a module, and of a class inside it. -/
def nestedCode : Text :=
  "def a\nend\nmodule M\n  class C\n    def b\n    end\n  end\n  def c\n  end\nend\n".toList

/-- The nodes of the syntax tree of `nestedCode`. -/
def nestedLabels : List (Nat × NodeLabel) := [
  (0, ⟨"program", true, 0, 71, ⟨0, 0⟩, ⟨10, 0⟩, none, 0⟩),
  (1, ⟨"method", true, 0, 9, ⟨0, 0⟩, ⟨1, 3⟩, none, 1⟩),
  (2, ⟨"identifier", true, 4, 5, ⟨0, 4⟩, ⟨0, 5⟩, some "name", 2⟩),
  (1, ⟨"module", true, 10, 70, ⟨2, 0⟩, ⟨9, 3⟩, none, 3⟩),
  (2, ⟨"constant", true, 17, 18, ⟨2, 7⟩, ⟨2, 8⟩, some "name", 4⟩),
  (2, ⟨"body_statement", true, 21, 66, ⟨3, 2⟩, ⟨8, 5⟩, some "body", 5⟩),
  (3, ⟨"class", true, 21, 52, ⟨3, 2⟩, ⟨6, 5⟩, none, 6⟩),
  (4, ⟨"constant", true, 27, 28, ⟨3, 8⟩, ⟨3, 9⟩, some "name", 7⟩),
  (4, ⟨"body_statement", true, 33, 46, ⟨4, 4⟩, ⟨5, 7⟩, some "body", 8⟩),
  (5, ⟨"method", true, 33, 46, ⟨4, 4⟩, ⟨5, 7⟩, none, 9⟩),
  (6, ⟨"identifier", true, 37, 38, ⟨4, 8⟩, ⟨4, 9⟩, some "name", 10⟩),
  (3, ⟨"method", true, 55, 66, ⟨7, 2⟩, ⟨8, 5⟩, none, 11⟩),
  (4, ⟨"identifier", true, 59, 60, ⟨7, 6⟩, ⟨7, 7⟩, some "name", 12⟩)]

theorem nodup_places_nestedLabels :
    ∃ root, Node.ofPreorder? nestedLabels = some root ∧ root.IsNumbered ∧
      ((rules.examined root (.ofText nestedCode)).map (·.1.node.label.place)).Nodup ∧
      (rules.examined root (.ofText nestedCode)).map (fun e => (e.1.node.label.place, e.2)) =
        [(1, none), (11, some ['M']), (9, some ['C'])] := by
  have found : (Node.ofPreorder? nestedLabels).map (fun root =>
      (rules.examined root (.ofText nestedCode)).map fun e => (e.1.node.label.place, e.2)) =
        some [(1, none), (11, some ['M']), (9, some ['C'])] := by decide +kernel
  obtain ⟨root, read, owners⟩ := Option.map_eq_some_iff.1 found
  have numbered : root.IsNumbered := Node.isNumbered_of_ofPreorder? read (by decide +kernel)
  exact ⟨root, read, numbered,
    (Language.nodup_places_examined .ruby numbered nestedCode {}).1, owners⟩

end Ruby

end DocHarvest
