import DocHarvest.Doc.Yard
import DocHarvest.Proofs.Doc.Blocks
import DocHarvest.Proofs.Doc.Bracket

/-!
# The two spellings of a parameter in YARD

The types of a parameter stand behind its name or before it. The first spelling is always read back;
the second one exactly if the description does not begin with a bracket
(`read_typeFirst_iff_nameFirst`), as types are looked for behind the name a second time.
-/

namespace DocHarvest.Doc.Yard

open Text

variable {keyword t rest : Text}

/-! ## Types at the front of a text -/

theorem takeTypes_of_head?_ne (start : ∀ c ∈ t.head?, isBlank c = false) (h : t.head? ≠ some '[') :
    takeTypes keyword (' ' :: t) = .ok (none, t) := by
  rw [takeTypes]
  simp only [trimStart_space start, leadingBracket?, if_neg h]
  rfl

/-- A bracket at the front holds the types, or is not closed. -/
theorem takeTypes_of_head? (h : t.head? = some '[') : takeTypes keyword (' ' :: t) =
    match takeBracketed? '[' ']' t with
    | some (types, rest) => .ok (some (trim types), trimStart rest)
    | none => .error (.unbalancedType keyword) := by
  have start : ∀ c ∈ t.head?, isBlank c = false := by
    intro c hc
    obtain rfl := Option.some.inj (h.symm.trans hc)
    decide
  rw [takeTypes]
  simp only [trimStart_space start, leadingBracket?, if_pos h]
  cases takeBracketed? '[' ']' t <;> rfl

/-- Types as they are written, between square brackets. -/
def writeTypes (types : Text) : Text := '[' :: types ++ [']']

theorem takeTypes_writeTypes {types : Text} (trimmed : IsTrimmed types)
    (balanced : IsBalanced '[' ']' 0 types) (start : ∀ c ∈ rest.head?, isBlank c = false) :
    takeTypes keyword (' ' :: (writeTypes types ++ ' ' :: rest)) = .ok (some types, rest) := by
  have parts : takeBracketed? '[' ']' (writeTypes types ++ ' ' :: rest) =
      some (types, ' ' :: rest) := by
    simpa [takeBracketed?, writeTypes] using balanced.takeToClosing?_append (by decide) (' ' :: rest)
  rw [takeTypes_of_head? (by rfl), parts]
  simp only [trimmed.trim_eq, trimStart_space start]

/-! ## Parameters -/

/-- What a block says about a parameter. -/
structure ParamSpec where
  name : Text
  types : Text
  description : Text

namespace ParamSpec

/-- The block with the types behind the name. -/
def nameFirst (spec : ParamSpec) : Text :=
  blockText "param".toList
    (spec.name ++ ' ' :: writeTypes spec.types ++ ' ' :: spec.description)

/-- The block with the types before the name. -/
def typeFirst (spec : ParamSpec) : Text :=
  blockText "param".toList
    (writeTypes spec.types ++ ' ' :: spec.name ++ ' ' :: spec.description)

def tag (spec : ParamSpec) : DocTag where
  keyword := "param".toList
  argName := some spec.name
  typeName := some spec.types
  description := some spec.description

/-- The name is a word, and brackets match in the types. -/
structure IsWellFormed (spec : ParamSpec) : Prop where
  name_ne : spec.name ≠ []
  name : ∀ c ∈ spec.name, isBlank c = false
  bracket : spec.name.head? ≠ some '['
  types : IsLine spec.types
  balanced : IsBalanced '[' ']' 0 spec.types
  description : IsLine spec.description

instance (spec : ParamSpec) : Decidable spec.IsWellFormed :=
  decidable_of_iff (spec.name ≠ [] ∧ spec.name.all (!isBlank ·) = true ∧
      spec.name.head? ≠ some '[' ∧ IsLine spec.types ∧ IsBalanced '[' ']' 0 spec.types ∧
      IsLine spec.description) (by
    simp only [List.all_eq_true, Bool.not_eq_true']
    exact ⟨fun ⟨a, b, c, d, e, f⟩ => ⟨a, b, c, d, e, f⟩,
      fun ⟨a, b, c, d, e, f⟩ => ⟨a, b, c, d, e, f⟩⟩)

end ParamSpec

/-- Reads the name of a parameter and what follows, where types may stand before it. -/
def readNamed (keyword : Text) (leading : Option Text) (t : Text) : Except DocError DocTag := do
  let (name, rest) := splitFirstWord t
  if name.isEmpty then .error (.missingArgName keyword)
  else
    let (trailing, rest) ← takeTypes keyword rest
    return (({ keyword, argName := some name } : DocTag).withType
      (leading.or trailing)).withDescription rest

theorem readBlock_param {leading : Option Text}
    (h : takeTypes "param".toList (' ' :: t) = .ok (leading, rest)) :
    readBlock (blockText "param".toList t) = readNamed "param".toList leading rest := by
  have kind : TagKind.ofKeyword "param".toList = .param := by decide
  rw [readBlock, blockKeyword_blockText isKeyword_param]
  simp only [DocTag.kind, kind, h, if_true]
  rfl

namespace ParamSpec.IsWellFormed

variable {spec : ParamSpec}

theorem isBlank_head?_name (wf : spec.IsWellFormed) (rest : Text) :
    ∀ c ∈ (spec.name ++ rest).head?, isBlank c = false := by
  intro c hc
  obtain ⟨d, name, e⟩ := List.exists_cons_of_ne_nil wf.name_ne
  rw [e] at hc
  obtain rfl := Option.some.inj hc
  exact wf.name d (by simp [e])

theorem head?_name_ne (wf : spec.IsWellFormed) (rest : Text) :
    (spec.name ++ rest).head? ≠ some '[' := by
  obtain ⟨d, name, e⟩ := List.exists_cons_of_ne_nil wf.name_ne
  have := wf.bracket
  rw [e] at this ⊢
  exact this

theorem readNamed_name (wf : spec.IsWellFormed) (leading : Option Text) (rest : Text) :
    readNamed keyword leading (spec.name ++ ' ' :: rest) = (do
      let (trailing, rest) ← takeTypes keyword (' ' :: rest)
      return (({ keyword, argName := some spec.name } : DocTag).withType
        (leading.or trailing)).withDescription rest) := by
  have word : splitFirstWord (spec.name ++ ' ' :: rest) = (spec.name, ' ' :: rest) :=
    splitFirstWord_append wf.name_ne wf.name fun c hc => by
      obtain rfl := Option.some.inj hc
      decide
  have named : spec.name.isEmpty = false := List.isEmpty_eq_false_iff.2 wf.name_ne
  rw [readNamed, word]
  simp only [named]
  rfl

/-- The tag with the types and a description that is the one of the parameter. -/
theorem tag_eq (wf : spec.IsWellFormed) :
    (({ keyword := "param".toList, argName := some spec.name } : DocTag).withType
      (some spec.types)).withDescription spec.description = spec.tag := by
  rw [withType_some wf.types.ne, DocTag.withDescription, wf.description.nonBlank?_eq]
  rfl

theorem readBlock_nameFirst (wf : spec.IsWellFormed) : readBlock spec.nameFirst = .ok spec.tag := by
  rw [ParamSpec.nameFirst, List.append_assoc,
    readBlock_param (takeTypes_of_head?_ne (wf.isBlank_head?_name _) (wf.head?_name_ne _)),
    List.cons_append, wf.readNamed_name,
    takeTypes_writeTypes wf.types.toIsTrimmed wf.balanced wf.description.head]
  exact congrArg _ wf.tag_eq

theorem readBlock_typeFirst (wf : spec.IsWellFormed) : readBlock spec.typeFirst = (do
    let (trailing, rest) ← takeTypes "param".toList (' ' :: spec.description)
    return (({ keyword := "param".toList, argName := some spec.name } : DocTag).withType
      ((some spec.types).or trailing)).withDescription rest) := by
  rw [ParamSpec.typeFirst, List.append_assoc, List.cons_append,
    readBlock_param
      (takeTypes_writeTypes wf.types.toIsTrimmed wf.balanced (wf.isBlank_head?_name _)),
    wf.readNamed_name]

/-- A bracket at the front of the description is lost to the types, or is not closed. -/
theorem readBlock_typeFirst_iff (wf : spec.IsWellFormed) :
    readBlock spec.typeFirst = .ok spec.tag ↔ spec.description.head? ≠ some '[' := by
  rw [wf.readBlock_typeFirst]
  by_cases h : spec.description.head? = some '['
  · refine iff_of_false ?_ (not_not_intro h)
    rw [takeTypes_of_head? h]
    cases parts : takeBracketed? '[' ']' spec.description with
    | none => exact nofun
    | some pair =>
      obtain ⟨types, rest⟩ := pair
      intro same
      have kept : nonBlank? (trimStart rest) = some spec.description :=
        congrArg DocTag.description (Except.ok.inj same)
      have := length_le_of_nonBlank? kept
      have : (trimStart rest).length ≤ rest.length := List.length_dropWhile_le _ _
      have := length_lt_of_takeBracketed? parts
      omega
  · refine iff_of_true ?_ h
    rw [takeTypes_of_head?_ne wf.description.head h]
    exact congrArg _ wf.tag_eq

theorem newline_not_mem_name (wf : spec.IsWellFormed) : '\n' ∉ spec.name :=
  fun mem => absurd (wf.name _ mem) (by decide)

theorem newline_not_mem_types (wf : spec.IsWellFormed) : '\n' ∉ writeTypes spec.types := by
  simp [writeTypes, wf.types.newline]

theorem isBlock_nameFirst (wf : spec.IsWellFormed) : IsBlock spec.nameFirst := by
  have body : IsBody (spec.name ++ ' ' :: writeTypes spec.types ++ [' '] ++ spec.description) := by
    refine (isBody_of_isLine wf.description).append_left ?_ ?_
    · rw [List.append_assoc]
      exact wf.isBlank_head?_name _
    · simp [wf.newline_not_mem_name, wf.newline_not_mem_types]
  rw [List.append_assoc, List.singleton_append] at body
  exact body.isBlock isKeyword_param

theorem isBlock_typeFirst (wf : spec.IsWellFormed) : IsBlock spec.typeFirst := by
  have body : IsBody (writeTypes spec.types ++ ' ' :: spec.name ++ [' '] ++ spec.description) := by
    refine (isBody_of_isLine wf.description).append_left ?_ ?_
    · intro c hc
      obtain rfl := Option.some.inj hc
      decide
    · simp [wf.newline_not_mem_name, wf.newline_not_mem_types]
  rw [List.append_assoc, List.singleton_append] at body
  exact body.isBlock isKeyword_param

end ParamSpec.IsWellFormed

/-! ## Comments -/

/-- Behind lines that can be read, a parameter whose name stands before its types is read back, and
one whose types stand before its name is read back exactly if no bracket begins its description. -/
theorem read_typeFirst_iff_nameFirst {spec : ParamSpec} (wf : spec.IsWellFormed)
    {before : List Text} {doc : StructuredDoc} (ok : read (joinLines before) = .ok doc) :
    read (joinLines (before ++ [spec.nameFirst])) =
      .ok { doc with tags := doc.tags ++ [spec.tag] } ∧
    (read (joinLines (before ++ [spec.typeFirst])) =
      .ok { doc with tags := doc.tags ++ [spec.tag] } ↔ spec.description.head? ≠ some '[') := by
  rw [read] at ok
  rw [read, read, wf.isBlock_nameFirst.readBlocks_concat, wf.isBlock_typeFirst.readBlocks_concat, ok,
    wf.readBlock_nameFirst, ← wf.readBlock_typeFirst_iff]
  refine ⟨rfl, fun same => ?_, fun same => by rw [same]; rfl⟩
  cases block : readBlock spec.typeFirst with
  | error e =>
    rw [block] at same
    exact absurd same nofun
  | ok tag =>
    rw [block] at same
    have tags : doc.tags ++ [tag] = doc.tags ++ [spec.tag] :=
      congrArg StructuredDoc.tags (Except.ok.inj same)
    obtain rfl : tag = spec.tag := by simpa using tags
    rfl

/-- A parameter with brackets inside its types and inside its description. -/
def rowsParam : ParamSpec where
  name := "rows".toList
  types := "Array[Array[Integer]], nil".toList
  description := "the rows [0..10] to copy".toList

theorem read_rowsParam :
    rowsParam.IsWellFormed ∧
    read (joinLines ["Copies rows.".toList, "@return [Boolean] success".toList]) =
      .ok { short := some "Copies rows.".toList
            tags := [{ keyword := "return".toList, typeName := some "Boolean".toList,
                       description := some "success".toList }] } ∧
    read (joinLines ["Copies rows.".toList, "@return [Boolean] success".toList,
        rowsParam.typeFirst]) =
      .ok { short := some "Copies rows.".toList
            tags := [{ keyword := "return".toList, typeName := some "Boolean".toList,
                       description := some "success".toList }, rowsParam.tag] } := by
  have wf : rowsParam.IsWellFormed := by decide
  have ok : read (joinLines ["Copies rows.".toList, "@return [Boolean] success".toList]) =
      .ok { short := some "Copies rows.".toList
            tags := [{ keyword := "return".toList, typeName := some "Boolean".toList,
                       description := some "success".toList }] } := by
    decide
  exact ⟨wf, ok, (read_typeFirst_iff_nameFirst wf ok).2.2 (by decide)⟩

/-- Behind types, a range at the front of a description is lost. -/
theorem read_typeFirst_range :
    ParamSpec.IsWellFormed ⟨"count".toList, "Integer".toList, "[0..10] how many rows".toList⟩ ∧
    read (ParamSpec.nameFirst ⟨"count".toList, "Integer".toList, "[0..10] how many rows".toList⟩) ≠
      read (ParamSpec.typeFirst
        ⟨"count".toList, "Integer".toList, "[0..10] how many rows".toList⟩) := by
  refine ⟨by decide, ?_⟩
  have nameFirst : read
      (ParamSpec.nameFirst ⟨"count".toList, "Integer".toList, "[0..10] how many rows".toList⟩) =
    .ok { tags := [{ keyword := "param".toList, argName := some "count".toList,
                     typeName := some "Integer".toList,
                     description := some "[0..10] how many rows".toList }] } := by
    decide
  have typeFirst : read
      (ParamSpec.typeFirst ⟨"count".toList, "Integer".toList, "[0..10] how many rows".toList⟩) =
    .ok { tags := [{ keyword := "param".toList, argName := some "count".toList,
                     typeName := some "Integer".toList,
                     description := some "how many rows".toList }] } := by
    decide
  rw [nameFirst, typeFirst]
  decide

end DocHarvest.Doc.Yard
