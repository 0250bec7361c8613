import DocHarvest.Doc.Rest
import DocHarvest.Proofs.Doc.Indent
import DocHarvest.Proofs.Text.Words
import Mathlib.Data.List.Pairwise

/-!
# Field lists in any order

A summary with fields of one line each behind it is read back (`read_fieldList`): one tag for each
field that documents something, in order, with the type that another field gives it. Where the fields
with types stand does not matter.
-/

namespace DocHarvest.Doc.Rest

open Text

/-! ## Fields as they are written -/

/-- What a field can give a type to. -/
inductive Subject where
  | param (name : Text)
  | result
  | handedOut
deriving DecidableEq

namespace Subject

/-- The keyword of a field that describes the subject. -/
def keyword : Subject → Text
  | param _ => "param".toList
  | result => "returns".toList
  | handedOut => "yields".toList

/-- The keyword of a field that gives a type to the subject. -/
def typeKeyword : Subject → Text
  | param _ => "type".toList
  | result => "rtype".toList
  | handedOut => "ytype".toList

def name? : Subject → Option Text
  | param name => some name
  | result | handedOut => none

end Subject

/-- A field on one line. -/
inductive FieldSpec where
  | describes (subject : Subject) (description : Text)
  | types (subject : Subject) (typeName : Text)
  | raises (exception description : Text)
deriving DecidableEq

namespace FieldSpec

def keyword : FieldSpec → Text
  | describes subject _ => subject.keyword
  | types subject _ => subject.typeKeyword
  | raises _ _ => "raises".toList

/-- The name behind the keyword. -/
def name? : FieldSpec → Option Text
  | describes subject _ | types subject _ => subject.name?
  | raises exception _ => some exception

/-- The description, or the type. -/
def text : FieldSpec → Text
  | describes _ t | types _ t | raises _ t => t

/-- A name as it is written, behind a space. -/
def writeName : Option Text → Text
  | none => []
  | some name => ' ' :: name

/-- The line of a field. -/
def line (spec : FieldSpec) : Text :=
  ':' :: (spec.keyword ++ writeName spec.name? ++ ':' :: ' ' :: spec.text)

/-- What the field gives a type to. -/
def typed? : FieldSpec → Option Subject
  | types subject _ => some subject
  | describes _ _ | raises _ _ => none

/-- The type that the field gives to a subject. -/
def typeOf? (subject : Subject) : FieldSpec → Option Text
  | types about typeName => if about = subject then some typeName else none
  | describes _ _ | raises _ _ => none

/-- The tag of a field that documents something, where `typeOf` gives the types. -/
def tag? (typeOf : Subject → Option Text) : FieldSpec → Option DocTag
  | describes (.param name) description => some {
      keyword := "param".toList, argName := some name, typeName := typeOf (.param name)
      default := defaultIn? (some description), description := some description }
  | describes subject description => some {
      keyword := subject.keyword, typeName := typeOf subject, description := some description }
  | raises exception description => some {
      keyword := "raises".toList, typeName := some exception, description := some description }
  | types _ _ => none

/-- A name is a word without a colon, and what stands behind the colon is on one line. -/
structure IsWellFormed (spec : FieldSpec) : Prop where
  name : ∀ name ∈ spec.name?, name ≠ [] ∧ ∀ c ∈ name, isBlank c = false ∧ c ≠ ':'
  text : IsLine spec.text

instance (spec : FieldSpec) : Decidable spec.IsWellFormed :=
  decidable_of_iff ((∀ name ∈ spec.name?, name ≠ [] ∧
      name.all (fun c => !isBlank c && decide (c ≠ ':')) = true) ∧ IsLine spec.text) (by
    simp only [List.all_eq_true, Bool.and_eq_true, Bool.not_eq_true', decide_eq_true_eq]
    exact ⟨fun h => ⟨h.1, h.2⟩, fun h => ⟨h.name, h.text⟩⟩)

end FieldSpec

/-- Fields of which at most one gives a type to each subject. -/
structure AreWellFormed (fields : List FieldSpec) : Prop where
  each : ∀ spec ∈ fields, spec.IsWellFormed
  typed : (fields.filterMap FieldSpec.typed?).Nodup

instance (fields : List FieldSpec) : Decidable (AreWellFormed fields) :=
  decidable_of_iff ((∀ spec ∈ fields, spec.IsWellFormed) ∧
      (fields.filterMap FieldSpec.typed?).Nodup)
    ⟨fun h => ⟨h.1, h.2⟩, fun h => ⟨h.each, h.typed⟩⟩

/-- The type that the fields give to a subject. -/
def givenType? (fields : List FieldSpec) (subject : Subject) : Option Text :=
  fields.findSome? (FieldSpec.typeOf? subject)

/-- A summary, and the fields behind it after an empty line. -/
def fieldList (summary : Text) (fields : List FieldSpec) : Text :=
  joinLines (summary :: [] :: fields.map FieldSpec.line)

/-! ## Gathering fields -/

variable {l t : Text} {ls : List Text} {spec : FieldSpec} {fields : List FieldSpec}

theorem gatherFields_cons (l : Text) (ls : List Text) : gatherFields (l :: ls) =
    if startsField l then ([], (trimStart l :: (gatherFields ls).1) :: (gatherFields ls).2)
    else (l :: (gatherFields ls).1, (gatherFields ls).2) := rfl

theorem startsField_eq_false (start : ∀ c ∈ l.head?, isBlank c = false) (h : l.head? ≠ some ':') :
    startsField l = false := by
  rw [startsField, trimStart_eq_self start]
  split
  · exact absurd rfl h
  · rfl

theorem all_isWordChar_of_mem_fieldKeywords :
    ∀ keyword ∈ fieldKeywords, ∀ c ∈ keyword, Unicode.isWordChar c = true := by
  simp only [← List.all_eq_true]
  decide

/-- A keyword with a character behind it that belongs to no word starts a field. -/
theorem startsField_append {keyword rest : Text} (mem : keyword ∈ fieldKeywords)
    (edge : ∀ c ∈ rest.head?, Unicode.isWordChar c = false) :
    startsField (':' :: (keyword ++ rest)) = true := by
  have ⟨taken, _⟩ :=
    takeWhile_append_of_stop (all_isWordChar_of_mem_fieldKeywords keyword mem) edge
  have start : trimStart (':' :: (keyword ++ rest)) = ':' :: (keyword ++ rest) :=
    trimStart_eq_self fun d hd => by
      obtain rfl := Option.some.inj hd
      decide
  rw [startsField, start]
  simp only [taken]
  exact List.contains_iff_mem.2 mem

namespace FieldSpec

theorem keyword_mem : ∀ spec : FieldSpec, spec.keyword ∈ fieldKeywords
  | describes (.param _) _ => (by decide : "param".toList ∈ fieldKeywords)
  | describes .result _ => (by decide : "returns".toList ∈ fieldKeywords)
  | describes .handedOut _ => (by decide : "yields".toList ∈ fieldKeywords)
  | types (.param _) _ => (by decide : "type".toList ∈ fieldKeywords)
  | types .result _ => (by decide : "rtype".toList ∈ fieldKeywords)
  | types .handedOut _ => (by decide : "ytype".toList ∈ fieldKeywords)
  | raises _ _ => (by decide : "raises".toList ∈ fieldKeywords)

/-- A space or a colon stands behind the keyword. -/
theorem head?_writeName (name : Option Text) (rest : Text) :
    ∀ c ∈ (writeName name ++ ':' :: rest).head?, c = ' ' ∨ c = ':' := by
  intro c hc
  cases name with
  | none => exact .inr (Option.some.inj hc).symm
  | some name => exact .inl (Option.some.inj hc).symm

theorem startsField_line (spec : FieldSpec) : startsField spec.line = true := by
  rw [line, List.append_assoc]
  refine startsField_append spec.keyword_mem fun c hc => ?_
  rcases head?_writeName _ _ c hc with rfl | rfl <;> decide

theorem trimStart_line (spec : FieldSpec) : trimStart spec.line = spec.line :=
  trimStart_eq_self fun c hc => by
    obtain rfl := Option.some.inj hc
    decide

end FieldSpec

/-- Every field on one line is gathered by itself. -/
theorem gatherFields_lines (fields : List FieldSpec) :
    gatherFields (fields.map FieldSpec.line) = ([], fields.map fun spec => [spec.line]) := by
  induction fields with
  | nil => rfl
  | cons spec fields ih =>
    rw [List.map_cons, gatherFields_cons, spec.startsField_line, ih, spec.trimStart_line]
    rfl

/-! ## Reading one field -/

section
variable {field head description keyword : Text} {arguments : List Text}

/-- Reads a field whose words before the colon and whose description are known. -/
def readWords (keyword : Text) (arguments : List Text) (description field : Text) :
    Except DocError Field :=
  if keyword = "type".toList && arguments.length = 1 then
    .ok (.typeOf (arguments.headD []) description)
  else if keyword = "rtype".toList && arguments.isEmpty then
    .ok (.returnType (nonBlank? description))
  else if keyword = "ytype".toList && arguments.isEmpty then
    .ok (.yieldType (nonBlank? description))
  else (fieldTag keyword arguments description field).map .tag

theorem readField_eq (parts : splitOnce ':' (field.drop 1) = some (head, description))
    (ws : words head = keyword :: arguments) :
    readField field = readWords keyword arguments (fieldDescription description) field := by
  rw [readField, parts]
  simp only [ws]
  rfl

/-- The keywords of fields that hold a type. -/
def typeKeywords : List Text := ["type", "rtype", "ytype"].map String.toList

theorem readWords_eq_fieldTag (h : keyword ∉ typeKeywords) :
    readWords keyword arguments description field =
      (fieldTag keyword arguments description field).map .tag := by
  simp only [typeKeywords, List.map_cons, List.map_nil, List.mem_cons, List.not_mem_nil, or_false,
    not_or] at h
  simp only [readWords, h, decide_false, Bool.false_and, Bool.false_eq_true, if_false]

theorem readWords_of_param {name : Text} (kind : TagKind.ofKeyword keyword = .param)
    (h : keyword ∉ typeKeywords) : readWords keyword [name] description field = .ok (.tag {
      keyword, argName := some name, default := defaultIn? (nonBlank? description)
      description := nonBlank? description }) := by
  have kind' : (({ keyword } : DocTag).withDescription description).kind = .param := kind
  rw [readWords_eq_fieldTag h]
  simp only [fieldTag, kind']
  rfl

theorem readWords_nil (kind : TagKind.ofKeyword keyword ≠ .param) (h : keyword ∉ typeKeywords) :
    readWords keyword [] description field =
      .ok (.tag { keyword, description := nonBlank? description }) := by
  rw [readWords_eq_fieldTag h]
  simp only [fieldTag]
  cases kind' : (({ keyword } : DocTag).withDescription description).kind
  · exact absurd kind' kind
  all_goals rfl

theorem readWords_of_raises {exception : Text} (kind : TagKind.ofKeyword keyword = .raises)
    (ne : exception ≠ []) (h : keyword ∉ typeKeywords) :
    readWords keyword [exception] description field = .ok (.tag {
      keyword, typeName := some exception, description := nonBlank? description }) := by
  have kind' : (({ keyword } : DocTag).withDescription description).kind = .raises := kind
  rw [readWords_eq_fieldTag h]
  simp only [fieldTag, kind', withType_some ne]
  rfl

end

/-- What a field is read as before it is given a type by another one. -/
def FieldSpec.field : FieldSpec → Field
  | .describes (.param name) description => .tag {
      keyword := "param".toList, argName := some name
      default := defaultIn? (some description), description := some description }
  | .describes subject description => .tag {
      keyword := subject.keyword, description := some description }
  | .types (.param name) typeName => .typeOf name typeName
  | .types .result typeName => .returnType (some typeName)
  | .types .handedOut typeName => .yieldType (some typeName)
  | .raises exception description => .tag {
      keyword := "raises".toList, typeName := some exception, description := some description }

namespace FieldSpec.IsWellFormed

theorem words_head (wf : spec.IsWellFormed) :
    words (spec.keyword ++ writeName spec.name?) = spec.keyword :: spec.name?.toList := by
  have keyword : words spec.keyword = [spec.keyword] := by
    have all : ∀ keyword ∈ fieldKeywords, words keyword = [keyword] := by decide
    exact all _ spec.keyword_mem
  cases h : spec.name? with
  | none => rw [writeName, List.append_nil, keyword]; rfl
  | some name =>
    obtain ⟨ne, solid⟩ := wf.name name h
    rw [writeName, words_append_cons (by decide), keyword,
      words_of_solid ne fun c hc => (solid c hc).1]
    rfl

/-- Neither white space but the space nor a colon is in the words of a field. -/
theorem not_mem_head (wf : spec.IsWellFormed) {c : Char}
    (keywords : ∀ keyword ∈ fieldKeywords, c ∉ keyword) (space : c ≠ ' ') (edge : isBlank c = true ∨ c = ':') :
    c ∉ spec.keyword ++ writeName spec.name? := by
  have keyword : c ∉ spec.keyword := keywords _ spec.keyword_mem
  have name : c ∉ writeName spec.name? := by
    cases h : spec.name? with
    | none => exact List.not_mem_nil
    | some name =>
      intro mem
      rcases List.mem_cons.1 mem with e | mem
      · exact space e
      · obtain ⟨solid, colon⟩ := (wf.name name h).2 _ mem
        rcases edge with blank | e
        · exact absurd blank (by simp [solid])
        · exact colon e
  simp [keyword, name]

theorem fieldDescription_text (wf : spec.IsWellFormed) :
    fieldDescription (' ' :: spec.text) = spec.text := by
  have space : IsBlank [' '] := isBlankText_iff.1 rfl
  rw [fieldDescription, trimStart_space wf.text.head, splitOnce_of_not_mem wf.text.newline]
  exact (trim_append_left space _).trans wf.text.trim_eq

theorem readField_line (wf : spec.IsWellFormed) : readField spec.line = .ok spec.field := by
  have parts : splitOnce ':' (spec.line.drop 1) =
      some (spec.keyword ++ writeName spec.name?, ' ' :: spec.text) :=
    splitOnce_append_cons (wf.not_mem_head (by decide) (by decide) (.inr rfl)) _
  have full : nonBlank? spec.text = some spec.text := wf.text.nonBlank?_eq
  rw [readField_eq parts wf.words_head, wf.fieldDescription_text]
  generalize spec.line = line
  rcases spec with ⟨subject, t⟩ | ⟨subject, t⟩ | ⟨exception, t⟩
  · have said : nonBlank? t = some t := full
    cases subject with
    | param name =>
      have read : readWords "param".toList [name] t line = _ :=
        readWords_of_param (by decide) (by decide)
      rwa [said] at read
    | result =>
      have read : readWords "returns".toList [] t line = _ := readWords_nil (by decide) (by decide)
      rwa [said] at read
    | handedOut =>
      have read : readWords "yields".toList [] t line = _ := readWords_nil (by decide) (by decide)
      rwa [said] at read
  · cases subject with
    | param name => rfl
    | result => exact congrArg (fun t => Except.ok (Field.returnType t)) full
    | handedOut => exact congrArg (fun t => Except.ok (Field.yieldType t)) full
  · have said : nonBlank? t = some t := full
    obtain ⟨ne, -⟩ := wf.name exception rfl
    have read : readWords "raises".toList [exception] t line = _ :=
      readWords_of_raises (by decide) ne (by decide)
    rwa [said] at read

theorem newline_not_mem (wf : spec.IsWellFormed) : '\n' ∉ spec.line := by
  have head := wf.not_mem_head (by decide) (by decide) (.inl (by decide : isBlank '\n' = true))
  rw [List.mem_append, not_or] at head
  simp [line, head, wf.text.newline]

theorem isEnded_line (wf : spec.IsWellFormed) : IsEnded spec.line := by
  have parted : spec.line =
      ':' :: (spec.keyword ++ writeName spec.name? ++ [':', ' ']) ++ spec.text := by
    simp [line]
  intro c hc
  rw [parted, List.getLast?_append_of_ne_nil _ wf.text.ne] at hc
  exact wf.text.last c hc

end FieldSpec.IsWellFormed

/-! ## Types from other fields -/

/-- Where values that are found agree, the first one found is any one of them. -/
theorem findSome?_eq_some_iff_of_agree {α β : Type} {f : α → Option β} {as : List α}
    (agree : ∀ a ∈ as, ∀ b ∈ as, ∀ x ∈ f a, ∀ y ∈ f b, x = y) {x : β} :
    as.findSome? f = some x ↔ ∃ a ∈ as, f a = some x := by
  constructor
  · exact List.exists_of_findSome?_eq_some
  · rintro ⟨a, ha, e⟩
    have found : (as.findSome? f).isSome = true := List.findSome?_isSome_iff.2 ⟨a, ha, by rw [e]; rfl⟩
    obtain ⟨y, hy⟩ := Option.isSome_iff_exists.1 found
    obtain ⟨b, hb, e'⟩ := List.exists_of_findSome?_eq_some hy
    rw [hy, agree b hb a ha y e' x e]

namespace AreWellFormed

theorem perm {fields' : List FieldSpec} (wf : AreWellFormed fields) (h : fields'.Perm fields) :
    AreWellFormed fields' :=
  ⟨fun spec hs => wf.each spec (h.subset hs), ((h.filterMap _).nodup_iff).2 wf.typed⟩

theorem typeName_eq (wf : AreWellFormed fields) {subject : Subject} {t t' : Text}
    (h : .types subject t ∈ fields) (h' : .types subject t' ∈ fields) : t = t' := by
  by_contra ne
  have other : FieldSpec.types subject t ≠ .types subject t' := fun e => ne (by injection e)
  have symm : Std.Symm fun a b : FieldSpec => ∀ x ∈ a.typed?, ∀ y ∈ b.typed?, x ≠ y :=
    ⟨fun _ _ apart x hx y hy => (apart y hy x hx).symm⟩
  exact (List.pairwise_filterMap.1 wf.typed).forall h h' other subject rfl subject rfl rfl

end AreWellFormed

theorem FieldSpec.typeOf?_eq_some_iff {subject : Subject} :
    spec.typeOf? subject = some t ↔ spec = .types subject t := by
  cases spec with
  | types about typeName => by_cases h : about = subject <;> simp [FieldSpec.typeOf?, h]
  | describes _ _ => simp [FieldSpec.typeOf?]
  | raises _ _ => simp [FieldSpec.typeOf?]

/-- A subject has the type that a field gives it, wherever that field stands. -/
theorem AreWellFormed.givenType?_eq_some_iff (wf : AreWellFormed fields) (subject : Subject)
    (t : Text) : givenType? fields subject = some t ↔ .types subject t ∈ fields := by
  rw [givenType?, findSome?_eq_some_iff_of_agree]
  · simp only [FieldSpec.typeOf?_eq_some_iff, exists_eq_right]
  · intro a ha b hb x hx y hy
    obtain rfl := FieldSpec.typeOf?_eq_some_iff.1 hx
    obtain rfl := FieldSpec.typeOf?_eq_some_iff.1 hy
    exact wf.typeName_eq ha hb

/-- The order of fields does not matter to the types. -/
theorem AreWellFormed.givenType?_perm {fields' : List FieldSpec} (wf : AreWellFormed fields)
    (h : fields'.Perm fields) : givenType? fields' = givenType? fields := by
  funext subject
  apply Option.ext
  intro t
  rw [(wf.perm h).givenType?_eq_some_iff, wf.givenType?_eq_some_iff, h.mem_iff]

/-- The type that fields, after they were read, give to a subject. -/
def typeFor? (fields : List Field) : Subject → Option Text
  | .param name => typeOf? fields name
  | .result => returnType? fields
  | .handedOut => yieldType? fields

/-- The last type that is found, as `find` finds them. -/
theorem join_findSome?_reverse {find : Field → Option (Option Text)} {subject : Subject}
    (h : ∀ spec : FieldSpec, find spec.field = (spec.typeOf? subject).map some)
    (fields : List FieldSpec) : ((fields.map FieldSpec.field).reverse.findSome? find).join =
      givenType? fields.reverse subject := by
  rw [← List.map_reverse, givenType?]
  induction fields.reverse with
  | nil => rfl
  | cons spec fields ih =>
    rw [List.map_cons, List.findSome?_cons, List.findSome?_cons, h]
    cases spec.typeOf? subject with
    | none => exact ih
    | some t => rfl

theorem typeOf?_map (fields : List FieldSpec) (name : Text) :
    typeOf? (fields.map FieldSpec.field) name =
      (givenType? fields (.param name)).bind nonBlank? := by
  rw [typeOf?, givenType?, List.findSome?_map]
  refine congrArg (fun find => (List.findSome? find fields).bind nonBlank?) (funext fun spec => ?_)
  rcases spec with ⟨_ | _ | _, _⟩ | ⟨about | _ | _, t⟩ | _
  case types.param =>
    by_cases h : about = name <;> simp [FieldSpec.field, FieldSpec.typeOf?, h]
  all_goals rfl

theorem AreWellFormed.typeFor?_eq (wf : AreWellFormed fields) :
    typeFor? (fields.map FieldSpec.field) = givenType? fields := by
  have last := wf.givenType?_perm (List.reverse_perm fields)
  funext subject
  cases subject with
  | param name =>
    rw [typeFor?, typeOf?_map]
    cases given : givenType? fields (.param name) with
    | none => rfl
    | some t => exact (wf.each _ ((wf.givenType?_eq_some_iff _ _).1 given)).text.nonBlank?_eq
  | result =>
    rw [← last]
    refine join_findSome?_reverse (fun spec => ?_) fields
    rcases spec with ⟨_ | _ | _, _⟩ | ⟨_ | _ | _, _⟩ | _ <;> rfl
  | handedOut =>
    rw [← last]
    refine join_findSome?_reverse (fun spec => ?_) fields
    rcases spec with ⟨_ | _ | _, _⟩ | ⟨_ | _ | _, _⟩ | _ <;> rfl

/-- A tag is given the type that the fields give to its subject. -/
theorem FieldSpec.map_withFieldType (spec : FieldSpec) (fs : List Field) :
    spec.field.tag?.map (withFieldType fs) = spec.tag? (typeFor? fs) := by
  rcases spec with ⟨_ | _ | _, _⟩ | ⟨_ | _ | _, _⟩ | _ <;> rfl

/-! ## Field lists -/

theorem commonDepth_lines (fields : List FieldSpec) :
    commonDepth ([] :: fields.map FieldSpec.line) = 0 := by
  cases fields with
  | nil => rfl
  | cons spec fields =>
    have mem : spec.line ∈ [] :: (spec :: fields).map FieldSpec.line := by simp
    exact Nat.le_zero.1 (commonDepth_le_depth mem rfl)

/-- The fields are gathered from behind the summary. -/
theorem gatherFields_fieldList {summary : Text} (line : IsLine summary)
    (colon : summary.head? ≠ some ':') (wf : ∀ spec ∈ fields, spec.IsWellFormed) :
    ∃ before, gatherFields (lines (dedent (fieldList summary fields))) =
        (before, fields.map fun spec => [spec.line]) ∧
      StructuredDoc.ofDescription (joinLines before) = { short := some summary } := by
  have body : ∀ l ∈ [] :: fields.map FieldSpec.line, IsEnded l ∧ '\n' ∉ l :=
    List.forall_mem_cons.2 ⟨⟨nofun, List.not_mem_nil⟩, List.forall_mem_map.2 fun spec hs =>
      ⟨(wf spec hs).isEnded_line, (wf spec hs).newline_not_mem⟩⟩
  have first : startsField summary = false := startsField_eq_false line.head colon
  rw [fieldList, lines_dedent_joinLines line body (commonDepth_lines fields)]
  cases fields with
  | nil =>
    have alone : dropEmptyEnds [summary, []] = [summary] := by simp [dropEmptyEnds, line.ne]
    refine ⟨[summary], ?_, ofDescription_of_isLine line⟩
    rw [List.map_nil, alone, gatherFields_cons, first]
    rfl
  | cons spec fields =>
    have last : (summary :: [] :: (spec :: fields).map FieldSpec.line).getLast? ≠ some [] := by
      rw [List.map_cons, List.getLast?_cons_cons, List.getLast?_cons_cons, ← List.map_cons]
      intro e
      obtain ⟨s, -, empty⟩ := List.mem_map.1 (List.mem_of_getLast? e)
      exact absurd empty (List.cons_ne_nil _ _)
    refine ⟨[summary, []], ?_, ofDescription_joinLines_nil line⟩
    rw [dropEmptyEnds_eq_self (by simpa using line.ne) last, gatherFields_cons, first,
      gatherFields_cons, gatherFields_lines]
    rfl

theorem filterMap_tag? (typeOf : Subject → Option Text) (fields : List FieldSpec) :
    (fields.filter (·.typed?.isNone)).filterMap (FieldSpec.tag? typeOf) =
      fields.filterMap (FieldSpec.tag? typeOf) := by
  rw [List.filterMap_filter]
  refine congrArg (List.filterMap · fields) (funext fun spec => ?_)
  cases spec <;> rfl

/-- A field list is read back: one tag for each field that documents something, in order, with the
type that the field for its subject gives it. -/
theorem read_eq_of_wellFormed {summary : Text} (line : IsLine summary)
    (colon : summary.head? ≠ some ':') (wf : AreWellFormed fields) :
    read (fieldList summary fields) = .ok {
      short := some summary, tags := fields.filterMap (FieldSpec.tag? (givenType? fields)) } := by
  obtain ⟨before, gathered, short⟩ := gatherFields_fieldList line colon wf.each
  have each : (fields.map fun spec => [spec.line]).map joinLines = fields.map FieldSpec.line := by
    rw [List.map_map]
    rfl
  have tags : ((fields.map FieldSpec.field).filterMap Field.tag?).map
      (withFieldType (fields.map FieldSpec.field)) =
      fields.filterMap (FieldSpec.tag? (givenType? fields)) := by
    rw [List.map_filterMap, List.filterMap_map, ← wf.typeFor?_eq]
    exact congrArg (List.filterMap · fields) (funext fun spec => spec.map_withFieldType _)
  have said : (fields.map FieldSpec.line).mapM readField = .ok (fields.map FieldSpec.field) :=
    mapM_map_eq_ok fun spec hs => (wf.each spec hs).readField_line
  rw [read, gathered]
  simp only [each, said, bind, Except.bind, pure, Except.pure, short, tags]

/-- Fields are read back, each subject with its type wherever the field with that type stands; to move
such fields among the others changes nothing. -/
theorem read_fieldList {summary : Text} (line : IsLine summary) (colon : summary.head? ≠ some ':')
    (wf : AreWellFormed fields) :
    read (fieldList summary fields) = .ok {
      short := some summary, tags := fields.filterMap (FieldSpec.tag? (givenType? fields)) } ∧
    (∀ subject t, givenType? fields subject = some t ↔ .types subject t ∈ fields) ∧
    ∀ fields' : List FieldSpec, fields'.Perm fields →
      fields'.filter (·.typed?.isNone) = fields.filter (·.typed?.isNone) →
      read (fieldList summary fields') = read (fieldList summary fields) := by
  refine ⟨read_eq_of_wellFormed line colon wf, wf.givenType?_eq_some_iff, fun fields' perm same => ?_⟩
  rw [read_eq_of_wellFormed line colon (wf.perm perm), read_eq_of_wellFormed line colon wf,
    wf.givenType?_perm perm, ← filterMap_tag?, same, filterMap_tag?]

/-- Fields with types before and behind the fields that these are for. -/
def scaleFields : List FieldSpec := [
  .types (.param "factor".toList) "Fraction".toList,
  .raises "ZeroDivisionError".toList "if a factor: is zero".toList,
  .describes (.param "rows".toList) "the rows: all of them".toList,
  .describes .result ":type: of the rows".toList,
  .types .result "list[int]".toList,
  .describes (.param "factor".toList) "how much to scale by".toList,
  .types (.param "rows".toList) "Mapping: names to rows".toList]

theorem read_scaleFields :
    IsLine "Scales rows.".toList ∧ "Scales rows.".toList.head? ≠ some ':' ∧
    AreWellFormed scaleFields ∧
    (∃ doc, read (fieldList "Scales rows.".toList scaleFields) = .ok doc ∧
      doc.tags.map DocTag.typeName = ["ZeroDivisionError", "Mapping: names to rows", "list[int]",
        "Fraction"].map fun t => some t.toList) ∧
    read (fieldList "Scales rows.".toList
        (scaleFields.filter (·.typed?.isSome) ++ scaleFields.filter (·.typed?.isNone))) =
      read (fieldList "Scales rows.".toList scaleFields) := by
  have line : IsLine "Scales rows.".toList := by decide
  have colon : "Scales rows.".toList.head? ≠ some ':' := by decide
  have wf : AreWellFormed scaleFields := by decide
  obtain ⟨ok, -, moved⟩ := read_fieldList line colon wf
  exact ⟨line, colon, wf, ⟨_, ok, by decide⟩, moved _ (by decide) (by decide)⟩

end DocHarvest.Doc.Rest
