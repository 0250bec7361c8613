import DocHarvest.Doc.Numpy
import DocHarvest.Proofs.Doc.Sections
import Mathlib.Data.List.Induction
import Mathlib.Data.List.Basic

/-!
# Type specifications

A parameter of a NumPy section has its type behind a colon, with the word optional and its default
among the parts. The parts are read one by one (`TypeSpec.read_joinTypes`). What is read is what the
parts say, unless one of them begins with the word default and goes on with a letter: then it is
taken for a default and lost to the type (`tags_read_eq_iff`).
-/

namespace DocHarvest.Doc.Numpy

open Text

/-! ## What the parts say -/

/-- The word that says that a parameter can be left out. -/
def optionalWord : Text := "optional".toList

/-- The word that begins a default. -/
def defaultWord : Text := "default".toList

/-- What stands behind the word default in a part that is a default: nothing, or text that a space,
a colon or an equals sign sets off. -/
def clause? (part : Text) : Option Text :=
  (dropLead? defaultWord part).filter (·.head?.all fun c => c = ' ' || c = ':' || c = '=')

/-- A parameter without a description: its name and the parts behind the colon. -/
structure ParamSpec where
  name : Text
  parts : List Text
deriving DecidableEq

namespace ParamSpec

/-- The parameter as it is written. -/
def entry (spec : ParamSpec) : Text := spec.name ++ " : ".toList ++ joinTypes spec.parts

/-- The parts that are types. -/
def types (spec : ParamSpec) : List Text :=
  spec.parts.filter fun part => part ≠ optionalWord && (clause? part).isNone

/-- What the parts say, the last default counting. -/
def tag (spec : ParamSpec) : DocTag where
  keyword := "param".toList
  argName := some spec.name
  typeName := if spec.types = [] then none else some (joinTypes spec.types)
  default := ((spec.parts.filterMap clause?).getLast?).bind defaultValue
  optional := if optionalWord ∈ spec.parts then some true else none

/-- The name is on one line and does not hold what sets off the parts, which have no commas. -/
structure IsWellFormed (spec : ParamSpec) : Prop where
  name : IsLine spec.name
  colon : splitOnceText " : ".toList spec.name = none
  ne : spec.parts ≠ []
  parts : ∀ part ∈ spec.parts, IsLine part ∧ ',' ∉ part

instance (spec : ParamSpec) : Decidable spec.IsWellFormed :=
  decidable_of_iff (IsLine spec.name ∧ splitOnceText " : ".toList spec.name = none ∧
      spec.parts ≠ [] ∧ ∀ part ∈ spec.parts, IsLine part ∧ ',' ∉ part)
    ⟨fun ⟨a, b, c, d⟩ => ⟨a, b, c, d⟩, fun ⟨a, b, c, d⟩ => ⟨a, b, c, d⟩⟩

/-- No part begins with the word default without being a default, and the name does not end with the
colon that sets off the parts. -/
structure IsKept (spec : ParamSpec) : Prop where
  name : finishesWith spec.name " :".toList = false
  parts : ∀ part ∈ spec.parts, beginsWith part defaultWord = true → (clause? part).isSome = true

instance (spec : ParamSpec) : Decidable spec.IsKept :=
  decidable_of_iff (finishesWith spec.name " :".toList = false ∧
      ∀ part ∈ spec.parts, beginsWith part defaultWord = true → (clause? part).isSome = true)
    ⟨fun ⟨a, b⟩ => ⟨a, b⟩, fun ⟨a, b⟩ => ⟨a, b⟩⟩

end ParamSpec

variable {part name t : Text} {parts : List Text}

/-! ## Parts with commas between them -/

theorem splitOn_joinTypes (h : ∀ p ∈ part :: parts, ',' ∉ p) :
    splitOn ',' (joinTypes (part :: parts)) = part :: parts.map (' ' :: ·) := by
  induction parts generalizing part with
  | nil => exact splitOn_of_not_mem (h part List.mem_cons_self)
  | cons next parts ih =>
    have rest := ih fun p hp => h p (List.mem_cons_of_mem _ hp)
    have written : joinTypes (part :: next :: parts) =
        part ++ ',' :: ([' '] ++ joinTypes (next :: parts)) := by
      rw [joinTypes, List.append_assoc]
      · rfl
      · exact List.cons_ne_nil _ _
    rw [written, splitOn_append_cons (h part List.mem_cons_self),
      splitOn_append_left (by decide) rest]
    rfl

/-- The parts can be told from the text. -/
theorem joinTypes_inj {parts' : List Text} (ne : parts ≠ []) (ne' : parts' ≠ [])
    (h : ∀ p ∈ parts, ',' ∉ p) (h' : ∀ p ∈ parts', ',' ∉ p)
    (e : joinTypes parts = joinTypes parts') : parts = parts' := by
  obtain ⟨part, parts, rfl⟩ := List.exists_cons_of_ne_nil ne
  obtain ⟨part', parts', rfl⟩ := List.exists_cons_of_ne_nil ne'
  have same := splitOn_joinTypes h
  rw [e, splitOn_joinTypes h'] at same
  obtain ⟨rfl, behind⟩ := List.cons.inj same
  have space : Function.Injective fun p : Text => ' ' :: p := fun a b e => (List.cons.inj e).2
  rw [List.map_injective_iff.2 space behind]

theorem isLine_joinTypes (ne : parts ≠ []) (h : ∀ p ∈ parts, IsLine p) :
    IsLine (joinTypes parts) := by
  induction parts with
  | nil => exact absurd rfl ne
  | cons part parts ih =>
    cases parts with
    | nil => exact h part List.mem_cons_self
    | cons next parts =>
      have rest := ih (List.cons_ne_nil _ _) fun p hp => h p (List.mem_cons_of_mem _ hp)
      have first := h part List.mem_cons_self
      rw [joinTypes, List.append_assoc]
      · refine first.append (fun c hc => ?_) ?_
        · rw [List.getLast?_append_of_ne_nil _ rest.ne] at hc
          exact rest.last c hc
        · simp [rest.newline]
      · exact List.cons_ne_nil _ _

/-! ## Reading the parts -/

/-- The parts that are read as types. -/
def readTypes (parts : List Text) : List Text :=
  parts.filter fun part => part ≠ optionalWord && !beginsWith part defaultWord

namespace TypeSpec

theorem add_eq (spec : TypeSpec) (part : Text) : spec.add part =
    if trim part = optionalWord then { spec with optional := some true }
    else
      match dropLead? defaultWord (trim part) with
      | some value => { spec with default := defaultValue value }
      | none =>
        if (trim part).isEmpty then spec
        else { spec with types := spec.types ++ [trim part] } := rfl

theorem add_optional (spec : TypeSpec) :
    spec.add optionalWord = { spec with optional := some true } := rfl

theorem add_default (spec : TypeSpec) (line : IsLine part) {value : Text}
    (h : dropLead? defaultWord part = some value) :
    spec.add part = { spec with default := defaultValue value } := by
  have other : part ≠ optionalWord := by
    rintro rfl
    exact absurd h nofun
  rw [add_eq, line.trim_eq, if_neg other, h]

theorem add_type (spec : TypeSpec) (line : IsLine part) (other : part ≠ optionalWord)
    (h : dropLead? defaultWord part = none) :
    spec.add part = { spec with types := spec.types ++ [part] } := by
  have full : part.isEmpty = false := List.isEmpty_eq_false_iff.2 line.ne
  rw [add_eq, line.trim_eq, if_neg other, h]
  simp only [full]
  rfl

theorem add_space (spec : TypeSpec) (part : Text) : spec.add (' ' :: part) = spec.add part := by
  have blank : IsBlank [' '] := isBlankText_iff.1 rfl
  rw [add, add, ← List.singleton_append, trim_append_left blank]

theorem foldl_add (h : ∀ p ∈ parts, IsLine p) : parts.foldl TypeSpec.add {} =
    { types := readTypes parts
      optional := if optionalWord ∈ parts then some true else none
      default := ((parts.filterMap (dropLead? defaultWord)).getLast?).bind defaultValue } := by
  induction parts using List.reverseRecOn with
  | nil => rfl
  | append_singleton parts part ih =>
    obtain ⟨lines, line⟩ := List.forall_mem_append.1 h
    have line := line part List.mem_cons_self
    rw [List.foldl_append, ih lines, List.foldl_cons, List.foldl_nil, readTypes, readTypes,
      List.filter_append, List.filterMap_append]
    by_cases isOptional : part = optionalWord
    · subst isOptional
      have other : dropLead? defaultWord optionalWord = none := rfl
      rw [add_optional]
      simp [other]
    · cases begins : dropLead? defaultWord part with
      | some value =>
        rw [add_default _ line begins]
        simp [begins, beginsWith, Ne.symm isOptional]
      | none =>
        rw [add_type _ line isOptional begins]
        simp [begins, beginsWith, isOptional, Ne.symm isOptional]

/-- The types are the parts that are neither the word optional nor begin with the word default, and
the last part that begins with it gives the default. -/
theorem read_joinTypes (ne : parts ≠ []) (h : ∀ p ∈ parts, IsLine p ∧ ',' ∉ p) :
    TypeSpec.read (joinTypes parts) =
      { types := readTypes parts
        optional := if optionalWord ∈ parts then some true else none
        default := ((parts.filterMap (dropLead? defaultWord)).getLast?).bind defaultValue } := by
  rw [← foldl_add fun p hp => (h p hp).1]
  obtain ⟨part, parts, rfl⟩ := List.exists_cons_of_ne_nil ne
  rw [TypeSpec.read, splitOn_joinTypes fun p hp => (h p hp).2, List.foldl_cons, List.foldl_cons,
    List.foldl_map]
  simp only [add_space]

end TypeSpec

/-! ## Names -/

/-- A text with a separator in it is cut there or before. -/
theorem exists_splitOnceText (sep a b : Text) : ∃ a' b',
    splitOnceText sep (a ++ sep ++ b) = some (a', b') ∧ a'.length ≤ a.length := by
  induction a with
  | nil =>
    have lead : dropLead? sep (sep ++ b) = some b := dropLead?_eq_some.2 rfl
    refine ⟨[], b, ?_, Nat.le_refl 0⟩
    rw [List.nil_append]
    cases h : sep ++ b with
    | nil => rw [splitOnceText, ← h, lead]; rfl
    | cons c t => rw [splitOnceText, ← h, lead]
  | cons c a ih =>
    obtain ⟨a', b', e, le⟩ := ih
    rw [List.cons_append, List.cons_append, splitOnceText]
    cases dropLead? sep (c :: (a ++ sep ++ b)) with
    | some rest => exact ⟨[], rest, rfl, Nat.zero_le _⟩
    | none => exact ⟨c :: a', b', by rw [e]; rfl, Nat.succ_le_succ le⟩

/-- The parts stand behind the first colon between spaces, if the name does not end with a colon
behind a space. -/
theorem splitOnceText_append (colon : splitOnceText " : ".toList name = none)
    (ended : finishesWith name " :".toList = false) (behind : Text) :
    splitOnceText " : ".toList (name ++ " : ".toList ++ behind) = some (name, behind) := by
  induction name with
  | nil => rfl
  | cons c name ih =>
    rw [splitOnceText] at colon
    split at colon
    · cases colon
    next off =>
    have ended' : finishesWith name " :".toList = false := by
      rw [Bool.eq_false_iff]
      intro found
      obtain ⟨x, e⟩ := Option.isSome_iff_exists.1 found
      have found' : dropTail? " :".toList (c :: name) = some (c :: x) :=
        dropTail?_eq_some.2 (by rw [dropTail?_eq_some.1 e]; rfl)
      rw [finishesWith, found'] at ended
      exact absurd ended nofun
    have off' : dropLead? " : ".toList (c :: (name ++ " : ".toList ++ behind)) = none := by
      rw [Option.eq_none_iff_forall_ne_some]
      intro r h
      have e := dropLead?_eq_some.1 h
      -- the separator would be inside the name, or begin with its end
      rcases name with _ | ⟨d, _ | ⟨f, name⟩⟩
      · exact absurd e (by simp)
      · obtain ⟨rfl, rfl, -⟩ : c = ' ' ∧ d = ':' ∧ _ := by simpa using e
        exact absurd ended (by decide)
      · obtain ⟨rfl, rfl, rfl, -⟩ : c = ' ' ∧ d = ':' ∧ f = ' ' ∧ _ := by simpa using e
        exact absurd off (by simp [dropLead?])
    have rest := ih (Option.map_eq_none_iff.1 colon) ended'
    rw [List.cons_append, List.cons_append, splitOnceText, off', rest]
    rfl

/-! ## Reading one parameter -/

namespace ParamSpec

variable {spec : ParamSpec}

/-- The tag that is read: every part that begins with the word default counts as a default. -/
def readTag (spec : ParamSpec) : DocTag :=
  { spec.tag with
    typeName := if readTypes spec.parts = [] then none else some (joinTypes (readTypes spec.parts))
    default := ((spec.parts.filterMap (dropLead? defaultWord)).getLast?).bind defaultValue }

theorem isLine_of_mem_readTypes (wf : spec.IsWellFormed) (mem : part ∈ readTypes spec.parts) :
    IsLine part ∧ ',' ∉ part := wf.parts part (List.mem_filter.1 mem).1

theorem IsWellFormed.isLine_parts (wf : spec.IsWellFormed) : IsLine (joinTypes spec.parts) :=
  isLine_joinTypes wf.ne fun p hp => (wf.parts p hp).1

theorem IsWellFormed.newline_not_mem_entry (wf : spec.IsWellFormed) : '\n' ∉ spec.entry := by
  simp [entry, wf.name.newline, wf.isLine_parts.newline]

theorem readEntry_eq (wf : spec.IsWellFormed) : readEntry "param".toList spec.entry =
    ({ keyword := "param".toList
       argName := some (nameAndSpec spec.entry).1
       optional := (TypeSpec.read (nameAndSpec spec.entry).2).optional
       default := (TypeSpec.read (nameAndSpec spec.entry).2).default } : DocTag).withType
      (nonBlank? (joinTypes (TypeSpec.read (nameAndSpec spec.entry).2).types)) := by
  have kind : TagKind.ofKeyword "param".toList = .param := by decide
  have empty : nonBlank? [] = none := rfl
  rw [readEntry, splitOnce_of_not_mem wf.newline_not_mem_entry]
  simp only [Option.getD_none, DocTag.kind, DocTag.withDescription, kind, if_true, empty,
    defaultIn?, Option.bind_none, Option.or_none]

theorem readEntry_entry (wf : spec.IsWellFormed)
    (ended : finishesWith spec.name " :".toList = false) :
    readEntry "param".toList spec.entry = spec.readTag := by
  have parts : nameAndSpec spec.entry = (spec.name, joinTypes spec.parts) := by
    rw [nameAndSpec, entry, splitOnceText_append wf.colon ended]
    simp only [wf.name.trim_eq, wf.isLine_parts.trim_eq]
  have said : TypeSpec.read (joinTypes spec.parts) = _ := TypeSpec.read_joinTypes wf.ne wf.parts
  rw [readEntry_eq wf, parts, said, readTag]
  by_cases empty : readTypes spec.parts = []
  · rw [empty, if_pos rfl]
    rfl
  · have line := isLine_joinTypes empty fun p hp => (isLine_of_mem_readTypes wf hp).1
    rw [if_neg empty, line.nonBlank?_eq, withType_some line.ne]
    rfl

/-- A name that ends with a colon behind a space loses it to what sets off the parts. -/
theorem argName_readEntry_ne (wf : spec.IsWellFormed)
    (ended : finishesWith spec.name " :".toList = true) :
    (readEntry "param".toList spec.entry).argName ≠ some spec.name := by
  obtain ⟨x, e⟩ := Option.isSome_iff_exists.1 ended
  have named := dropTail?_eq_some.1 e
  have written : spec.entry = x ++ " : ".toList ++ (": ".toList ++ joinTypes spec.parts) := by
    rw [entry, named]
    simp
  obtain ⟨a, b, cut, le⟩ :=
    exists_splitOnceText " : ".toList x (": ".toList ++ joinTypes spec.parts)
  have name : (nameAndSpec spec.entry).1 = trim a := by
    rw [nameAndSpec, written, cut]
  rw [readEntry_eq wf]
  intro same
  have same : trim a = spec.name := by
    rw [← name]
    exact Option.some.inj same
  have shorter := congrArg List.length named
  have := length_trim_le a
  rw [same] at this
  simp only [List.length_append] at shorter
  have two : " :".toList.length = 2 := rfl
  omega

theorem clause?_eq_iff : clause? part = dropLead? defaultWord part ↔
    (beginsWith part defaultWord = true → (clause? part).isSome = true) := by
  rw [clause?, beginsWith]
  cases dropLead? defaultWord part with
  | none => simp
  | some value => simp [Option.filter]

/-- What is read is what the parts say if all that begin with the word default are defaults. Another
part that does is a type, which is not read as one. -/
theorem readTag_eq_tag_iff (wf : spec.IsWellFormed) : spec.readTag = spec.tag ↔
    ∀ part ∈ spec.parts, beginsWith part defaultWord = true → (clause? part).isSome = true := by
  constructor
  · intro same part mem begins
    by_contra other
    have noClause : clause? part = none := Option.not_isSome_iff_eq_none.1 other
    have notOptional : part ≠ optionalWord := by
      rintro rfl
      exact absurd begins (by decide)
    have isType : part ∈ spec.types :=
      List.mem_filter.2 ⟨mem, by simp [notOptional, noClause]⟩
    have notRead : part ∉ readTypes spec.parts := fun mem =>
      absurd (List.mem_filter.1 mem).2 (by simp [begins])
    have full : spec.types ≠ [] := List.ne_nil_of_mem isType
    have typeName : spec.tag.typeName = some (joinTypes spec.types) := if_neg full
    rw [← same, readTag] at typeName
    split at typeName
    · cases typeName
    · next ne =>
      have comma : ∀ p ∈ spec.types, ',' ∉ p := fun p hp =>
        (wf.parts p (List.mem_filter.1 hp).1).2
      have lists := joinTypes_inj ne full (fun p hp => (isLine_of_mem_readTypes wf hp).2) comma
        (Option.some.inj typeName)
      exact notRead (lists ▸ isType)
  · intro all
    have each : ∀ part ∈ spec.parts, clause? part = dropLead? defaultWord part := fun part mem =>
      clause?_eq_iff.2 (all part mem)
    have types : spec.types = readTypes spec.parts := by
      refine List.filter_congr fun part mem => ?_
      rw [each part mem, beginsWith, Option.not_isSome]
    have values : spec.parts.filterMap clause? = spec.parts.filterMap (dropLead? defaultWord) :=
      List.filterMap_congr each
    rw [readTag, ← types, ← values]
    rfl

theorem readEntry_eq_tag_iff (wf : spec.IsWellFormed) :
    readEntry "param".toList spec.entry = spec.tag ↔ spec.IsKept := by
  cases ended : finishesWith spec.name " :".toList with
  | false =>
    rw [readEntry_entry wf ended, readTag_eq_tag_iff wf]
    exact ⟨fun all => ⟨ended, all⟩, fun kept => kept.parts⟩
  | true =>
    refine iff_of_false (fun same => ?_) fun kept => ?_
    · exact argName_readEntry_ne wf ended (by rw [same]; rfl)
    · rw [kept.name] at ended
      cases ended

end ParamSpec

/-! ## Docstrings -/

section
variable {before after : List DocSection} {body entries entries' : List Text} {spec : ParamSpec}

/-- A parameter without a description, in a section of parameters anywhere in a docstring, is read
as what its parts say exactly if none of them is wrongly taken for a default and its name is kept. -/
theorem tags_read_eq_iff (wf : spec.IsWellFormed)
    (sections : (gatherSections (lines (dedent t))).2 =
      before ++ ⟨"Parameters".toList, body⟩ :: after)
    (entry : entriesOf body = entries ++ spec.entry :: entries') :
    (read t).tags =
      before.flatMap readSection ++ entries.map (readEntry "param".toList) ++
        spec.tag :: (entries'.map (readEntry "param".toList) ++ after.flatMap readSection) ↔
    spec.IsKept := by
  have keyword : keywordOf? "Parameters".toList = some "param".toList := by decide
  have tags : (read t).tags = (gatherSections (lines (dedent t))).2.flatMap readSection := rfl
  rw [tags, sections, List.flatMap_append, List.flatMap_cons, readSection, keyword, entry,
    ← ParamSpec.readEntry_eq_tag_iff wf]
  simp

end

/-- The parameter in the middle of a docstring has its parts in no particular order. -/
theorem tags_read_sortedGroups :
    let spec : ParamSpec :=
      ⟨"key".toList, ["default: 'id'", "str", "optional", "None"].map String.toList⟩
    let body := ["rows : list", "    the rows", "key : default: 'id', str, optional, None",
      "sort : bool"].map String.toList
    let t := joinLines (["Groups rows.", "", "Returns", "-------", "dict", "", "Parameters",
      "----------"].map String.toList ++ body)
    let tag : DocTag :=
      { keyword := "param".toList, argName := some "key".toList
        typeName := some "str, None".toList, default := some "'id'".toList, optional := some true }
    spec.IsWellFormed ∧ spec.IsKept ∧ spec.tag = tag ∧
      (gatherSections (lines (dedent t))).2 =
        [⟨"Returns".toList, ["dict".toList, []]⟩] ++ ⟨"Parameters".toList, body⟩ :: [] ∧
      entriesOf body =
        ["rows : list\nthe rows".toList] ++ spec.entry :: ["sort : bool".toList] ∧
      (read t).tags =
        [{ keyword := "returns".toList, typeName := some "dict".toList },
          { keyword := "param".toList, argName := some "rows".toList
            typeName := some "list".toList, description := some "the rows".toList },
          tag,
          { keyword := "param".toList, argName := some "sort".toList
            typeName := some "bool".toList }] := by
  intro spec body t tag
  have wf : spec.IsWellFormed := by decide
  have kept : spec.IsKept := by decide
  have sections : (gatherSections (lines (dedent t))).2 =
      [⟨"Returns".toList, ["dict".toList, []]⟩] ++ ⟨"Parameters".toList, body⟩ :: [] := by decide
  have entry : entriesOf body =
      ["rows : list\nthe rows".toList] ++ spec.entry :: ["sort : bool".toList] := by decide
  refine ⟨wf, kept, by decide, sections, entry, ?_⟩
  rw [(tags_read_eq_iff wf sections entry).2 kept]
  decide

/-- A type that begins with the letters of the word default is lost, and what follows them becomes a
default. -/
theorem tags_read_defaultdict :
    let spec : ParamSpec := ⟨"groups".toList, ["defaultdict".toList, "optional".toList]⟩
    let t := joinLines (["Groups rows.", "", "Parameters", "----------",
      "groups : defaultdict, optional"].map String.toList)
    spec.IsWellFormed ∧
      (gatherSections (lines (dedent t))).2 = [⟨"Parameters".toList, [spec.entry]⟩] ∧
      entriesOf [spec.entry] = [spec.entry] ∧
      spec.tag =
        { keyword := "param".toList, argName := some "groups".toList
          typeName := some "defaultdict".toList, optional := some true } ∧
      (read t).tags =
        [{ keyword := "param".toList, argName := some "groups".toList
           default := some "dict".toList, optional := some true }] ∧
      (read t).tags ≠ [spec.tag] := by
  decide

end DocHarvest.Doc.Numpy
