import DocHarvest.Proofs.Doc.Javadoc

/-!
# Parameters written as blocks

`read_joinLines_blocks` : parameters that are written as blocks behind a comment are read back, one
tag for each and in order, whatever brackets stand in their types and defaults and on however many
lines their descriptions are.
-/

namespace DocHarvest.Doc.Javadoc

open Text

/-- Whether a parameter must be given, and what it is if it is not. -/
inductive ParamForm where
  | required
  | optional (default : Option Text)
deriving DecidableEq

namespace ParamForm

/-- A default behind a name. -/
def writeDefault : Option Text → Text
  | none => []
  | some default => '=' :: default

/-- The name of a parameter as it is written: between square brackets if it is optional. -/
def write (name : Text) : ParamForm → Text
  | required => name
  | optional default => '[' :: (name ++ writeDefault default ++ [']'])

def default? : ParamForm → Option Text
  | required => none
  | optional default => default

def isOptional? : ParamForm → Option Bool
  | required => none
  | optional _ => some true

end ParamForm

/-- A type as it is written, between braces. -/
def writeType : Option Text → Text
  | none => []
  | some typeName => '{' :: (typeName ++ ['}', ' '])

/-- What a block says about a parameter. -/
structure ParamSpec where
  name : Text
  typeName : Option Text
  form : ParamForm
  description : Text

namespace ParamSpec

/-- The block of a parameter. -/
def block (spec : ParamSpec) : Text :=
  blockText "param".toList
    (writeType spec.typeName ++ spec.form.write spec.name ++ ' ' :: spec.description)

/-- The tag of a parameter. -/
def tag (spec : ParamSpec) : DocTag where
  keyword := "param".toList
  argName := some spec.name
  typeName := spec.typeName
  default := spec.form.default?
  optional := spec.form.isOptional?
  description := some spec.description

theorem kind_tag (spec : ParamSpec) : spec.tag.kind = .param := by
  have kind : TagKind.ofKeyword "param".toList = .param := by decide
  exact kind

/-- Brackets match in the type and in the default, which are on one line, as is the name; and no
piece can be taken for another. -/
structure IsWellFormed (spec : ParamSpec) : Prop where
  name_ne : spec.name ≠ []
  name : ∀ c ∈ spec.name, isBlank c = false ∧ c ∉ ['=', '[', ']', '{', '}']
  typeName : ∀ t ∈ spec.typeName, t ≠ [] ∧ IsTrimmed t ∧ '\n' ∉ t ∧ IsBalanced '{' '}' 0 t ∧
    t.getLast? ≠ some '='
  default : ∀ t ∈ spec.form.default?, t ≠ [] ∧ IsTrimmed t ∧ '\n' ∉ t ∧ IsBalanced '[' ']' 0 t
  description : IsBody spec.description
  dash : beginsWith spec.description "- ".toList = false

instance (spec : ParamSpec) : Decidable spec.IsWellFormed :=
  decidable_of_iff (spec.name ≠ [] ∧
      spec.name.all (fun c => !isBlank c && decide (c ∉ ['=', '[', ']', '{', '}'])) = true ∧
      (∀ t ∈ spec.typeName, t ≠ [] ∧ IsTrimmed t ∧ '\n' ∉ t ∧ IsBalanced '{' '}' 0 t ∧
        t.getLast? ≠ some '=') ∧
      (∀ t ∈ spec.form.default?, t ≠ [] ∧ IsTrimmed t ∧ '\n' ∉ t ∧ IsBalanced '[' ']' 0 t) ∧
      IsBody spec.description ∧ beginsWith spec.description "- ".toList = false) (by
    simp only [List.all_eq_true, Bool.and_eq_true, Bool.not_eq_true', decide_eq_true_eq]
    exact ⟨fun h => ⟨h.1, h.2.1, h.2.2.1, h.2.2.2.1, h.2.2.2.2.1, h.2.2.2.2.2⟩,
      fun h => ⟨h.name_ne, h.name, h.typeName, h.default, h.description, h.dash⟩⟩)

end ParamSpec

/-! ## Names and defaults -/

variable {spec : ParamSpec} {keyword name rest t : Text}

/-- Reads a name and a default. -/
def readName (inner : Text) : Text × Option Text :=
  match splitOnce '=' inner with
  | some (name, default) => (trim name, nonBlank? default)
  | none => (trim inner, none)

theorem readParam_of_bracket {inner : Text} {default typeName : Option Text}
    (bracket : leadingBracket? '[' ']' keyword t = .ok (some (inner, rest)))
    (read : readName inner = (name, default)) (ne : name ≠ []) :
    readParam { keyword, typeName } t = .ok
      { keyword, argName := some name, typeName, default, optional := some true,
        description := nonBlank? (paramDescription rest) } := by
  have named : name.isEmpty = false := List.isEmpty_eq_false_iff.2 ne
  rw [readParam, bracket]
  simp only [bind, Except.bind]
  unfold readName at read
  cases parts : splitOnce '=' inner with
  | none =>
    rw [parts] at read
    obtain ⟨rfl, rfl⟩ := Prod.mk.inj read
    simp only [named]
    rfl
  | some pair =>
    rw [parts] at read
    obtain ⟨rfl, rfl⟩ := Prod.mk.inj read
    simp only [named]
    rfl

theorem readParam_of_word {typeName : Option Text} (plain : t.head? ≠ some '[')
    (word : splitFirstWord t = (name, rest)) (ne : name ≠ []) :
    readParam { keyword, typeName } t = .ok
      { keyword, argName := some name, typeName,
        description := nonBlank? (paramDescription rest) } := by
  have named : name.isEmpty = false := List.isEmpty_eq_false_iff.2 ne
  rw [readParam, leadingBracket?, if_neg plain]
  simp only [bind, Except.bind, word, named]
  rfl

theorem nonBlank?_paramDescription (body : IsBody t) (dash : beginsWith t "- ".toList = false) :
    nonBlank? (paramDescription (' ' :: t)) = some t := by
  have none : dropLead? "- ".toList t = none := by simpa [beginsWith] using dash
  rw [paramDescription]
  simp only [trimStart_space body.isTrimmed.head, none, Option.getD_none]
  exact nonBlank?_eq_some body.isTrimmed body.ne_nil

namespace ParamSpec.IsWellFormed

theorem not_mem_name (wf : spec.IsWellFormed) {c : Char} (h : c ∈ ['=', '[', ']', '{', '}']) :
    c ∉ spec.name := fun mem => (wf.name c mem).2 h

theorem isTrimmed_name (wf : spec.IsWellFormed) : IsTrimmed spec.name :=
  ⟨fun c hc => (wf.name c (List.mem_of_head? hc)).1,
    fun c hc => (wf.name c (List.mem_of_getLast? hc)).1⟩

variable {default : Option Text}

theorem readName_eq (wf : spec.IsWellFormed) (h : spec.form = .optional default) :
    readName (spec.name ++ ParamForm.writeDefault default) = (spec.name, default) := by
  have name := wf.isTrimmed_name.trim_eq
  have free : '=' ∉ spec.name := wf.not_mem_name (by decide)
  cases default with
  | none => simp [readName, ParamForm.writeDefault, splitOnce_of_not_mem free, name]
  | some default =>
    obtain ⟨ne, trimmed, _⟩ := wf.default default (by rw [h]; rfl)
    simp [readName, ParamForm.writeDefault, splitOnce_append_cons free, name,
      nonBlank?_eq_some trimmed ne]

theorem isBalanced_write (wf : spec.IsWellFormed) (h : spec.form = .optional default) :
    IsBalanced '[' ']' 0 (spec.name ++ ParamForm.writeDefault default) := by
  refine IsBalanced.append_left ?_ fun c hc =>
    ⟨fun e => wf.not_mem_name (by decide) (e ▸ hc), fun e => wf.not_mem_name (by decide) (e ▸ hc)⟩
  cases default with
  | none => exact .nil
  | some default =>
    obtain ⟨_, _, _, balanced⟩ := wf.default default (by rw [h]; rfl)
    exact balanced.cons (by decide) (by decide)

/-- The name, the default and the description of a parameter are read back. -/
theorem readParam_eq (wf : spec.IsWellFormed) :
    readParam { keyword := "param".toList, typeName := spec.typeName }
      (spec.form.write spec.name ++ ' ' :: spec.description) = .ok spec.tag := by
  have said := nonBlank?_paramDescription wf.description wf.dash
  cases h : spec.form with
  | required =>
    have solid : ∀ c ∈ spec.name, isBlank c = false := fun c hc => (wf.name c hc).1
    have word : splitFirstWord (spec.name ++ ' ' :: spec.description) =
        (spec.name, ' ' :: spec.description) :=
      splitFirstWord_append wf.name_ne solid fun c hc => by
        obtain rfl := Option.some.inj hc
        decide
    have plain : (spec.name ++ ' ' :: spec.description).head? ≠ some '[' := by
      obtain ⟨c, rest, e⟩ := List.exists_cons_of_ne_nil wf.name_ne
      have free : '[' ∉ spec.name := wf.not_mem_name (by decide)
      rw [e] at free ⊢
      rintro starts
      exact free (Option.some.inj starts ▸ List.mem_cons_self)
    rw [ParamForm.write, readParam_of_word plain word wf.name_ne, said, ParamSpec.tag, h]
    rfl
  | optional default =>
    have balanced := wf.isBalanced_write h
    have bracket : leadingBracket? '[' ']' "param".toList
        ('[' :: (spec.name ++ ParamForm.writeDefault default ++ [']']) ++ ' ' :: spec.description) =
        .ok (some (spec.name ++ ParamForm.writeDefault default, ' ' :: spec.description)) := by
      rw [leadingBracket?, if_pos (by rfl), List.cons_append, takeBracketed?, if_pos rfl,
        List.append_assoc, List.singleton_append, balanced.takeToClosing?_append (by decide)]
    rw [ParamForm.write, readParam_of_bracket bracket (wf.readName_eq h) wf.name_ne, said,
      ParamSpec.tag, h]
    rfl

/-! ## Types and blocks -/

/-- A name or a bracket stands behind the type. -/
theorem exists_head?_write (wf : spec.IsWellFormed) (rest : Text) :
    ∃ c, (spec.form.write spec.name ++ rest).head? = some c ∧ isBlank c = false ∧ c ≠ '{' := by
  cases spec.form with
  | required =>
    obtain ⟨c, tail, e⟩ := List.exists_cons_of_ne_nil wf.name_ne
    have mem : c ∈ spec.name := by simp [e]
    refine ⟨c, by rw [ParamForm.write, e]; rfl, (wf.name c mem).1, ?_⟩
    rintro rfl
    exact wf.not_mem_name (by decide) mem
  | optional default => exact ⟨'[', rfl, by decide, by decide⟩

theorem isBlank_head? (wf : spec.IsWellFormed) (rest : Text) : ∀ c ∈
    (writeType spec.typeName ++ (spec.form.write spec.name ++ rest)).head?, isBlank c = false := by
  intro x hx
  cases h : spec.typeName with
  | none =>
    obtain ⟨c, head, solid, -⟩ := wf.exists_head?_write rest
    rw [h, writeType, List.nil_append, head] at hx
    exact Option.some.inj hx ▸ solid
  | some t =>
    rw [h] at hx
    obtain rfl := Option.some.inj hx
    decide

theorem withBracedType_eq (wf : spec.IsWellFormed) (h : spec.typeName = some t) (keyword : Text) :
    withBracedType { keyword } t = { keyword, typeName := some t } := by
  obtain ⟨ne, trimmed, _, _, last⟩ := wf.typeName t h
  have none : dropTail? ['='] (trim t) = none := by
    rw [trimmed.trim_eq, Option.eq_none_iff_forall_ne_some]
    intro base e
    rw [dropTail?_eq_some.1 e, List.getLast?_concat] at last
    exact last rfl
  rw [withBracedType, none, trimmed.trim_eq]
  exact withType_some ne _

theorem readBlock_block (wf : spec.IsWellFormed) : readBlock spec.block = .ok spec.tag := by
  have kind := spec.kind_tag
  have read := wf.readParam_eq
  have start := wf.isBlank_head? (' ' :: spec.description)
  obtain ⟨c, head, solid, brace⟩ := wf.exists_head?_write (' ' :: spec.description)
  rw [ParamSpec.block, List.append_assoc]
  cases h : spec.typeName with
  | none =>
    rw [h] at read start
    rw [writeType, List.nil_append] at start ⊢
    rw [readBlock_of_head?_ne isKeyword_param start (by rw [head]; simpa using brace),
      readRest_of_param _ (by exact kind)]
    exact read
  | some t =>
    obtain ⟨_, _, _, balanced, _⟩ := wf.typeName t h
    have parts : takeBracketed? '{' '}'
        (writeType (some t) ++ (spec.form.write spec.name ++ ' ' :: spec.description)) =
        some (t, ' ' :: (spec.form.write spec.name ++ ' ' :: spec.description)) := by
      simpa [takeBracketed?, writeType] using balanced.takeToClosing?_append (by decide) _
    have behind : trimStart (' ' :: (spec.form.write spec.name ++ ' ' :: spec.description)) =
        spec.form.write spec.name ++ ' ' :: spec.description :=
      trimStart_space fun x hx => Option.some.inj (head.symm.trans hx) ▸ solid
    rw [h] at read start
    rw [readBlock_of_takeBracketed? isKeyword_param start rfl parts, behind,
      wf.withBracedType_eq h, readRest_of_param _ (by exact kind)]
    exact read

theorem newline_not_mem (wf : spec.IsWellFormed) :
    '\n' ∉ writeType spec.typeName ++ spec.form.write spec.name ++ [' '] := by
  have inType : '\n' ∉ writeType spec.typeName := by
    cases h : spec.typeName with
    | none => exact List.not_mem_nil
    | some t =>
      obtain ⟨_, _, line, _⟩ := wf.typeName t h
      simp [writeType, line]
  have inName : '\n' ∉ spec.name := fun mem => absurd (wf.name _ mem).1 (by decide)
  have inForm : '\n' ∉ spec.form.write spec.name := by
    cases h : spec.form with
    | required => exact inName
    | optional default =>
      cases default with
      | none => simp [ParamForm.write, ParamForm.writeDefault, inName]
      | some default =>
        obtain ⟨_, _, line, _⟩ := wf.default default (by rw [h]; rfl)
        simp [ParamForm.write, ParamForm.writeDefault, inName, line]
  simp [inType, inForm]

theorem isBlock_block (wf : spec.IsWellFormed) : IsBlock spec.block := by
  have body : IsBody (writeType spec.typeName ++ spec.form.write spec.name ++ [' '] ++
      spec.description) := by
    refine wf.description.append_left ?_ wf.newline_not_mem
    rw [List.append_assoc]
    exact wf.isBlank_head? [' ']
  rw [List.append_assoc, List.singleton_append] at body
  exact body.isBlock isKeyword_param

end ParamSpec.IsWellFormed

/-! ## Comments -/

theorem mapM_readBlock {specs : List ParamSpec} (h : ∀ spec ∈ specs, spec.IsWellFormed) :
    (specs.map ParamSpec.block).mapM readBlock = .ok (specs.map ParamSpec.tag) :=
  mapM_map_eq_ok fun spec hs => (h spec hs).readBlock_block

/-- Parameters written as blocks behind a comment in which no line starts a block are read back. -/
theorem read_joinLines_blocks {summary : Text} {specs : List ParamSpec} (plain : IsPlain summary)
    (h : ∀ spec ∈ specs, spec.IsWellFormed) :
    read (joinLines (summary :: specs.map ParamSpec.block)) =
      .ok { StructuredDoc.ofDescription (descriptionOf summary) with
        tags := specs.map ParamSpec.tag } ∧
    ∀ spec ∈ specs, spec.tag.kind = .param := by
  refine ⟨?_, fun spec _ => spec.kind_tag⟩
  have blocks : ∀ block ∈ specs.map ParamSpec.block, IsBlock block := by
    intro block hb
    obtain ⟨spec, hs, rfl⟩ := List.mem_map.1 hb
    exact (h spec hs).isBlock_block
  rw [read, readBlocks_joinLines blocks, plain.readBlocks_eq, mapM_readBlock h]
  rfl

/-- A parameter with brackets in its type, and an optional one with brackets in its default. -/
def copyParams : List ParamSpec := [
  ⟨"rows".toList, some "Array.<\x7bid: number\x7d>".toList, .required, "the rows\nto copy".toList⟩,
  ⟨"keys".toList, none, .optional (some "[[1], []]".toList), "the keys - by row".toList⟩,
  ⟨"limit".toList, some "number".toList, .optional none, "at most so many".toList⟩]

theorem read_copyParams :
    IsPlain "Copies rows.".toList ∧ (∀ spec ∈ copyParams, spec.IsWellFormed) ∧
    read (joinLines ("Copies rows.".toList :: copyParams.map ParamSpec.block)) =
      .ok { StructuredDoc.ofDescription (descriptionOf "Copies rows.".toList) with
        tags := copyParams.map ParamSpec.tag } := by
  have plain : IsPlain "Copies rows.".toList := by decide
  have wf : ∀ spec ∈ copyParams, spec.IsWellFormed := by decide
  exact ⟨plain, wf, (read_joinLines_blocks plain wf).1⟩

/-- A block that is indented counts although its line does not begin with the at-sign. -/
theorem read_indentedBlock :
    (∀ l ∈ splitLines "Copies rows.\n  @param y the columns".toList, l.head? ≠ some '@') ∧
    ParamSpec.IsWellFormed ⟨"x".toList, none, .required, "the rows".toList⟩ ∧
    ∀ doc, read (joinLines ["Copies rows.\n  @param y the columns".toList,
        ParamSpec.block ⟨"x".toList, none, .required, "the rows".toList⟩]) = .ok doc →
      doc.tags ≠ [ParamSpec.tag ⟨"x".toList, none, .required, "the rows".toList⟩] := by
  refine ⟨by decide, by decide, ?_⟩
  have result : read (joinLines ["Copies rows.\n  @param y the columns".toList,
      ParamSpec.block ⟨"x".toList, none, .required, "the rows".toList⟩]) =
    .ok { short := some "Copies rows.".toList,
          tags := [ParamSpec.tag ⟨"y".toList, none, .required, "the columns".toList⟩,
            ParamSpec.tag ⟨"x".toList, none, .required, "the rows".toList⟩] } := by
    decide +kernel
  intro doc ok
  obtain rfl := Except.ok.inj (result.symm.trans ok)
  exact fun same => absurd (congrArg List.length same) (by decide)

end DocHarvest.Doc.Javadoc
