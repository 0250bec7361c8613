import DocHarvest.Doc.Javadoc
import DocHarvest.Proofs.Doc.Blocks
import DocHarvest.Proofs.Doc.Bracket

/-!
# Javadoc and JSDoc blocks

A block that documents neither a parameter nor an exception keeps its text as the description exactly
if the text does not begin with a brace (`read_append_blockText_iff`).
-/

namespace DocHarvest.Doc.Javadoc

open Text

variable {keyword t : Text}

/-! ## Reading one block -/

/-- Reads what follows the type of a block. -/
def readRest (tag : DocTag) (rest : Text) : Except DocError DocTag :=
  match tag.kind, tag.typeName with
  | .param, _ => readParam tag rest
  | .raises, none =>
    let (exception, rest) := splitFirstWord rest
    return (tag.withType (nonBlank? exception)).withDescription rest
  | _, _ => return tag.withDescription rest

theorem readBlock_eq (hk : IsKeyword keyword) (start : ∀ c ∈ t.head?, isBlank c = false) :
    readBlock (blockText keyword t) = (do
      match ← leadingBracket? '{' '}' keyword t with
      | some (written, rest) => readRest (withBracedType { keyword } written) (trimStart rest)
      | none => readRest { keyword } t) := by
  rw [readBlock, blockKeyword_blockText hk]
  simp only [trimStart_space start]
  refine congrArg _ (funext fun parts => ?_)
  cases parts <;> rfl

theorem readBlock_of_head?_ne (hk : IsKeyword keyword) (start : ∀ c ∈ t.head?, isBlank c = false)
    (h : t.head? ≠ some '{') : readBlock (blockText keyword t) = readRest { keyword } t := by
  rw [readBlock_eq hk start, leadingBracket?, if_neg h]
  rfl

theorem readBlock_of_takeBracketed? (hk : IsKeyword keyword) {written rest : Text}
    (start : ∀ c ∈ t.head?, isBlank c = false) (h : t.head? = some '{')
    (parts : takeBracketed? '{' '}' t = some (written, rest)) :
    readBlock (blockText keyword t) =
      readRest (withBracedType { keyword } written) (trimStart rest) := by
  rw [readBlock_eq hk start, leadingBracket?, if_pos h, parts]
  rfl

theorem readBlock_of_unbalanced (hk : IsKeyword keyword) (start : ∀ c ∈ t.head?, isBlank c = false)
    (h : t.head? = some '{') (parts : takeBracketed? '{' '}' t = none) :
    readBlock (blockText keyword t) = .error (.unbalancedType keyword) := by
  rw [readBlock_eq hk start, leadingBracket?, if_pos h, parts]
  rfl

theorem readRest_of_param (tag : DocTag) (h : tag.kind = .param) (rest : Text) :
    readRest tag rest = readParam tag rest := by
  simp only [readRest, h]

/-! ## Blocks that document neither a parameter nor an exception -/

theorem readRest_of_kind (tag : DocTag) (param : tag.kind ≠ .param) (raises : tag.kind ≠ .raises)
    (rest : Text) : readRest tag rest = .ok (tag.withDescription rest) := by
  unfold readRest
  split
  · exact absurd ‹_› param
  · exact absurd ‹_› raises
  · rfl

theorem kind_withBracedType (tag : DocTag) (written : Text) :
    (withBracedType tag written).kind = tag.kind := by
  unfold withBracedType
  split <;> rfl

/-- A block with a brace in front has lost at least the braces from its description. -/
theorem description_ne_of_head? (hk : IsKeyword keyword) (body : IsBody t)
    (param : TagKind.ofKeyword keyword ≠ .param) (raises : TagKind.ofKeyword keyword ≠ .raises)
    (h : t.head? = some '{') {tag : DocTag} (ok : readBlock (blockText keyword t) = .ok tag) :
    tag.description ≠ some t := by
  cases parts : takeBracketed? '{' '}' t with
  | none =>
    rw [readBlock_of_unbalanced hk body.isTrimmed.head h parts] at ok
    exact absurd ok nofun
  | some parts' =>
    obtain ⟨written, rest⟩ := parts'
    have kind : (withBracedType { keyword } written).kind = TagKind.ofKeyword keyword :=
      kind_withBracedType _ _
    rw [readBlock_of_takeBracketed? hk body.isTrimmed.head h parts,
      readRest_of_kind _ (kind ▸ param) (kind ▸ raises)] at ok
    obtain rfl := Except.ok.inj ok
    intro same
    have := length_le_of_nonBlank? (t := trimStart rest) same
    have : (trimStart rest).length ≤ rest.length := List.length_dropWhile_le _ _
    have := length_lt_of_takeBracketed? parts
    omega

/-- The text of a block without a brace in front is its description. -/
theorem readBlock_of_body (hk : IsKeyword keyword) (body : IsBody t)
    (param : TagKind.ofKeyword keyword ≠ .param) (raises : TagKind.ofKeyword keyword ≠ .raises)
    (h : t.head? ≠ some '{') :
    readBlock (blockText keyword t) = .ok { keyword, description := some t } := by
  rw [readBlock_of_head?_ne hk body.isTrimmed.head h, readRest_of_kind { keyword } param raises,
    DocTag.withDescription, nonBlank?_eq_some body.isTrimmed body.ne_nil]

/-- Behind a comment that can be read, the text of a block is kept as a description exactly if no
brace begins it. A comment in which no line starts a block can be read. -/
theorem read_append_blockText_iff (summary : Text) (hk : IsKeyword keyword) (body : IsBody t)
    (param : TagKind.ofKeyword keyword ≠ .param) (raises : TagKind.ofKeyword keyword ≠ .raises) :
    ((∃ doc, read (summary ++ '\n' :: blockText keyword t) = .ok doc ∧
      ∃ tag ∈ doc.tags.getLast?,
        tag.keyword = keyword ∧ tag.typeName = none ∧ tag.description = some t) ↔
      (∃ doc, read summary = .ok doc) ∧ t.head? ≠ some '{') ∧
    (IsPlain summary → ∃ doc, read summary = .ok doc) := by
  refine ⟨?_, fun plain => ⟨_, plain.readBlocks_eq⟩⟩
  rw [read, (body.isBlock hk).readBlocks_append]
  constructor
  · rintro ⟨doc, ok, tag, last, -, -, kept⟩
    cases before : readBlocks readBlock summary with
    | error e =>
      rw [before] at ok
      exact absurd ok nofun
    | ok doc' =>
      cases block : readBlock (blockText keyword t) with
      | error e =>
        rw [before, block] at ok
        exact absurd ok nofun
      | ok tag' =>
        rw [before, block] at ok
        obtain rfl := Except.ok.inj ok
        obtain rfl : tag' = tag := Option.some.inj (List.getLast?_concat.symm.trans last)
        exact ⟨⟨doc', before⟩, fun h => description_ne_of_head? hk body param raises h block kept⟩
  · rintro ⟨⟨doc, ok⟩, h⟩
    rw [read] at ok
    rw [ok, readBlock_of_body hk body param raises h]
    exact ⟨_, rfl, _, List.getLast?_concat, rfl, rfl, rfl⟩

theorem read_append_returnBlock :
    IsKeyword "return".toList ∧ IsBody "true if found\n\x7b@code false\x7d if not".toList ∧
    TagKind.ofKeyword "return".toList ≠ .param ∧ TagKind.ofKeyword "return".toList ≠ .raises ∧
    ∃ doc, read ("Looks a row up.".toList ++ '\n' ::
        blockText "return".toList "true if found\n\x7b@code false\x7d if not".toList) = .ok doc ∧
      ∃ tag ∈ doc.tags.getLast?, tag.keyword = "return".toList ∧ tag.typeName = none ∧
        tag.description = some "true if found\n\x7b@code false\x7d if not".toList := by
  have keyword : IsKeyword "return".toList := by decide
  have body : IsBody "true if found\n\x7b@code false\x7d if not".toList := by decide
  have param : TagKind.ofKeyword "return".toList ≠ .param := by decide
  have raises : TagKind.ofKeyword "return".toList ≠ .raises := by decide
  have plain : IsPlain "Looks a row up.".toList := by decide
  have kept := read_append_blockText_iff "Looks a row up.".toList keyword body param raises
  exact ⟨keyword, body, param, raises, kept.1.2 ⟨kept.2 plain, by decide⟩⟩

/-- A description that begins with an inline tag loses it to the type. -/
theorem read_append_inlineTag :
    IsPlain "Looks a row up.".toList ∧ IsKeyword "return".toList ∧
    IsBody "\x7b@code true\x7d if found".toList ∧
    TagKind.ofKeyword "return".toList ≠ .param ∧ TagKind.ofKeyword "return".toList ≠ .raises ∧
    beginsWith "\x7b@code true\x7d if found".toList "\x7b@".toList = true ∧
    ¬ ∃ doc, read ("Looks a row up.".toList ++ '\n' ::
        blockText "return".toList "\x7b@code true\x7d if found".toList) = .ok doc ∧
      ∃ tag ∈ doc.tags, tag.keyword = "return".toList ∧ tag.typeName = none ∧
        tag.description = some "\x7b@code true\x7d if found".toList := by
  refine ⟨by decide, by decide, by decide, by decide, by decide, by decide, ?_⟩
  have result : read ("Looks a row up.".toList ++ '\n' ::
      blockText "return".toList "\x7b@code true\x7d if found".toList) =
    .ok { short := some "Looks a row up.".toList,
          tags := [{ keyword := "return".toList, typeName := some "@code true".toList,
                     description := some "if found".toList }] } := by
    decide +kernel
  rw [result]
  rintro ⟨doc, ok, tag, mem, -, untyped, -⟩
  obtain rfl := Except.ok.inj ok
  obtain rfl := List.mem_singleton.1 mem
  exact absurd untyped nofun

end DocHarvest.Doc.Javadoc
