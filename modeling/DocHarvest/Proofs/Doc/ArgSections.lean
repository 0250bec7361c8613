import DocHarvest.Doc.Google
import DocHarvest.Proofs.Doc.Sections

/-!
# Argument sections

A summary with a section of arguments behind it is read back (`read_argSection`): one tag for each
argument, in order. Types may hold parentheses, and descriptions may hold anything, since a name ends
at the first space and an entry at the first line that is not deeper.
-/

namespace DocHarvest.Doc.Google

open Text

/-! ## Arguments as they are written -/

/-- An argument: its name, its type with whether it is marked as optional, and the lines of its
description. -/
structure ArgSpec where
  name : Text
  typeName : Option (Text × Bool)
  first : Text
  more : List Text
deriving DecidableEq

/-- A line behind `n` spaces. -/
def indented (n : Nat) (l : Text) : Text := List.replicate n ' ' ++ l

/-- What stands between the parentheses. -/
def typeText (typeName : Text) (optional : Bool) : Text :=
  if optional then typeName ++ ", optional".toList else typeName

namespace ArgSpec

def description (spec : ArgSpec) : Text := joinLines (spec.first :: spec.more)

/-- What stands before the colon. -/
def head (spec : ArgSpec) : Text :=
  match spec.typeName with
  | none => spec.name
  | some (typeName, optional) => spec.name ++ ' ' :: '(' :: (typeText typeName optional ++ [')'])

/-- The first line, without its indentation. -/
def line (spec : ArgSpec) : Text := spec.head ++ ':' :: ' ' :: spec.first

def lines (spec : ArgSpec) : List Text := indented 4 spec.line :: spec.more.map (indented 8)

def tag (spec : ArgSpec) : DocTag where
  keyword := "param".toList
  argName := some spec.name
  typeName := spec.typeName.map Prod.fst
  default := defaultIn? (some spec.description)
  optional := if spec.typeName.any Prod.snd then some true else none
  description := some spec.description

/-- A name is a word without a colon or an opening parenthesis. A type is on one line, without a colon
and without the words that mark it as optional. -/
structure IsWellFormed (spec : ArgSpec) : Prop where
  name_ne : spec.name ≠ []
  name : ∀ c ∈ spec.name, isBlank c = false ∧ c ≠ ':' ∧ c ≠ '('
  typeName : ∀ t ∈ spec.typeName,
    IsLine t.1 ∧ ':' ∉ t.1 ∧ finishesWith t.1 ", optional".toList = false
  description : ∀ l ∈ spec.first :: spec.more, IsLine l

instance (spec : ArgSpec) : Decidable spec.IsWellFormed :=
  decidable_of_iff (spec.name ≠ [] ∧
      spec.name.all (fun c => !isBlank c && decide (c ≠ ':' ∧ c ≠ '(')) = true ∧
      (∀ t ∈ spec.typeName,
        IsLine t.1 ∧ ':' ∉ t.1 ∧ finishesWith t.1 ", optional".toList = false) ∧
      ∀ l ∈ spec.first :: spec.more, IsLine l) (by
    simp only [List.all_eq_true, Bool.and_eq_true, Bool.not_eq_true', decide_eq_true_eq]
    exact ⟨fun h => ⟨h.1, h.2.1, h.2.2.1, h.2.2.2⟩,
      fun h => ⟨h.name_ne, h.name, h.typeName, h.description⟩⟩)

end ArgSpec

/-- A summary, and a section of arguments behind it after an empty line. -/
def argSection (summary : Text) (specs : List ArgSpec) : Text :=
  joinLines (summary :: [] :: "Args:".toList :: specs.flatMap ArgSpec.lines)

variable {l t : Text} {ls : List Text} {spec : ArgSpec} {specs : List ArgSpec}

/-! ## Names with types -/

theorem parenthesised?_eq_none (h : t.head? ≠ some '(') : parenthesised? t = none := by
  rw [parenthesised?]
  rintro rest rfl
  exact h rfl

theorem parenthesised?_append (h : IsLine t) : parenthesised? ('(' :: (t ++ [')'])) = some t := by
  have ended : IsEnded (t ++ [')']) := by
    intro c hc
    rw [List.getLast?_concat] at hc
    obtain rfl := Option.some.inj hc
    decide
  have inner : dropTail? [')'] (t ++ [')']) = some t := dropTail?_eq_some.2 rfl
  simp [parenthesised?, ended.trimEnd_eq, inner, h.toIsTrimmed.trim_eq, h.ne, h.newline]

section
variable {name typeName : Text}

/-- The name ends at its first parenthesis, whatever the type has. -/
theorem typedName?_go_append (ne : name ≠ []) (solid : ∀ c ∈ name, isBlank c = false ∧ c ≠ '(')
    (h : IsLine typeName) (before : Text) :
    typedName?.go before (name ++ ' ' :: '(' :: (typeName ++ [')'])) =
      some (before.reverse ++ name, typeName) := by
  induction name generalizing before with
  | nil => exact absurd rfl ne
  | cons c name ih =>
    have newline : c ≠ '\n' := by
      rintro rfl
      exact absurd (solid _ List.mem_cons_self).1 (by decide)
    rw [List.cons_append, typedName?.go, if_neg newline]
    cases name with
    | nil =>
      -- behind the last character of the name, the type is next
      have start : trimStart (' ' :: '(' :: (typeName ++ [')'])) = '(' :: (typeName ++ [')']) :=
        trimStart_space fun d hd => by
          obtain rfl := Option.some.inj hd
          decide
      rw [List.nil_append, start, parenthesised?_append h]
      simp
    | cons d name =>
      obtain ⟨blank, ne⟩ := solid d (by simp)
      have start : trimStart (d :: name ++ ' ' :: '(' :: (typeName ++ [')'])) =
          d :: name ++ ' ' :: '(' :: (typeName ++ [')']) :=
        trimStart_eq_self fun x hx => Option.some.inj hx ▸ blank
      have none : parenthesised? (d :: name ++ ' ' :: '(' :: (typeName ++ [')'])) = none :=
        parenthesised?_eq_none (by simpa using ne)
      rw [start, none, ih (List.cons_ne_nil _ _) fun x hx => solid x (List.mem_cons_of_mem _ hx)]
      simp

theorem typedName?_append (ne : name ≠ []) (solid : ∀ c ∈ name, isBlank c = false ∧ c ≠ '(')
    (h : IsLine typeName) :
    typedName? (name ++ ' ' :: '(' :: (typeName ++ [')'])) = some (name, typeName) := by
  obtain ⟨c, rest, rfl⟩ := List.exists_cons_of_ne_nil ne
  have start : trimStart (c :: rest ++ ' ' :: '(' :: (typeName ++ [')'])) =
      c :: rest ++ ' ' :: '(' :: (typeName ++ [')']) :=
    trimStart_eq_self fun x hx => Option.some.inj hx ▸ (solid c List.mem_cons_self).1
  rw [typedName?, start]
  exact typedName?_go_append ne solid h []

theorem typedName?_go_eq_none (h : '(' ∉ t) (before : Text) : typedName?.go before t = none := by
  induction t generalizing before with
  | nil => rfl
  | cons c t ih =>
    simp only [List.mem_cons, not_or] at h
    have none : parenthesised? (trimStart t) = none := parenthesised?_eq_none fun e =>
      h.2 ((List.dropWhile_suffix _).subset (List.mem_of_head? e))
    rw [typedName?.go, none, ih h.2]
    split <;> rfl

theorem typedName?_eq_none (h : '(' ∉ t) : typedName? t = none :=
  typedName?_go_eq_none (fun mem => h ((List.dropWhile_suffix _).subset mem)) []

end

/-! ## Reading one argument -/

namespace ArgSpec.IsWellFormed

theorem colon_not_mem_head (wf : spec.IsWellFormed) : ':' ∉ spec.head := by
  have name : ':' ∉ spec.name := fun mem => (wf.name _ mem).2.1 rfl
  rw [head]
  split
  · exact name
  · next typeName optional h =>
    obtain ⟨-, colon, -⟩ := wf.typeName _ h
    cases optional <;> simp [typeText, name, colon]

theorem isLine_typeText (wf : spec.IsWellFormed) {typeName : Text} {optional : Bool}
    (h : spec.typeName = some (typeName, optional)) : IsLine (typeText typeName optional) := by
  obtain ⟨line, -, -⟩ := wf.typeName _ h
  cases optional with
  | false => exact line
  | true =>
    refine line.append (fun c hc => ?_) (by decide)
    obtain rfl := Option.some.inj hc
    decide

theorem dropTail?_typeText (wf : spec.IsWellFormed) {typeName : Text} {optional : Bool}
    (h : spec.typeName = some (typeName, optional)) :
    dropTail? ", optional".toList (typeText typeName optional) =
      if optional then some typeName else none := by
  obtain ⟨-, -, marked⟩ := wf.typeName _ h
  cases optional with
  | false => exact Option.not_isSome_iff_eq_none.1 (Bool.eq_false_iff.1 marked)
  | true => exact dropTail?_eq_some.2 rfl

theorem isTrimmed_description (wf : spec.IsWellFormed) : IsTrimmed spec.description :=
  isTrimmed_joinLines (List.cons_ne_nil _ _) (fun l hl => (wf.description l hl).toIsTrimmed)
    (fun l hl => (wf.description l (List.mem_of_head? hl)).ne)
    fun l hl => (wf.description l (List.mem_of_getLast? hl)).ne

theorem nonBlank?_description (wf : spec.IsWellFormed) :
    nonBlank? (' ' :: spec.description) = some spec.description := by
  have space : IsBlank [' '] := isBlankText_iff.1 rfl
  have ne : spec.description ≠ [] := by
    have first := (wf.description spec.first List.mem_cons_self).ne
    rw [ArgSpec.description]
    cases spec.more <;> simp [joinLines, join, first]
  have said := nonBlank?_eq_some wf.isTrimmed_description ne
  rwa [nonBlank?, ← trim_append_left space] at said

theorem readEntry_entry (wf : spec.IsWellFormed) :
    readEntry "param".toList (joinLines (spec.line :: spec.more)) = .ok spec.tag := by
  have entry : joinLines (spec.line :: spec.more) =
      spec.head ++ ':' :: ' ' :: spec.description := by
    have parted := joinLines_append [] (spec.head ++ [':', ' ']) spec.first spec.more
    simpa [line, ArgSpec.description, joinLines, join] using parted.symm
  have parts : splitOnce ':' (joinLines (spec.line :: spec.more)) =
      some (spec.head, ' ' :: spec.description) := by
    rw [entry]
    exact splitOnce_append_cons wf.colon_not_mem_head _
  have said : ({ keyword := "param".toList } : DocTag).withDescription (' ' :: spec.description) =
      { keyword := "param".toList, description := some spec.description } := by
    rw [DocTag.withDescription, wf.nonBlank?_description]
  have kind : DocTag.kind
      { keyword := "param".toList, description := some spec.description } ≠ .raises := by
    simp only [DocTag.kind]
    decide
  simp only [readEntry, parts, said, if_neg kind]
  have name := isLine_of_solid wf.name_ne fun c hc => (wf.name c hc).1
  cases h : spec.typeName with
  | none =>
    have head : spec.head = spec.name := by rw [head, h]
    have bare : typedName? spec.name = none :=
      typedName?_eq_none fun mem => (wf.name _ mem).2.2 rfl
    simp only [head, bare, name.toIsTrimmed.trim_eq, List.isEmpty_iff, name.ne, tag, h]
    rfl
  | some t =>
    obtain ⟨typeName, optional⟩ := t
    have head : spec.head =
        spec.name ++ ' ' :: '(' :: (typeText typeName optional ++ [')']) := by
      rw [head, h]
    have typed : typedName? spec.head = some (spec.name, typeText typeName optional) := by
      rw [head]
      exact typedName?_append wf.name_ne (fun c hc => ⟨(wf.name c hc).1, (wf.name c hc).2.2⟩)
        (wf.isLine_typeText h)
    obtain ⟨line, -, -⟩ := wf.typeName _ h
    have full : nonBlank? typeName = some typeName := line.nonBlank?_eq
    simp only [typed, wf.dropTail?_typeText h, tag, h]
    cases optional with
    | false =>
      have same : typeText typeName false = typeName := rfl
      simp only [same, full, withType_some line.ne, Bool.false_eq_true, if_false]
      rfl
    | true =>
      simp only [full, withType_some line.ne, if_true]
      rfl

end ArgSpec.IsWellFormed

/-! ## Indented lines -/

section
variable {n : Nat}

theorem isBlank_replicate (n : Nat) : IsBlank (List.replicate n ' ') := by
  intro c hc
  rw [List.eq_of_mem_replicate hc]
  decide

theorem byteLength_replicate (n : Nat) : byteLength (List.replicate n ' ') = n := by
  induction n with
  | zero => rfl
  | succ n ih =>
    have one : ' '.utf8Size = 1 := by decide
    rw [List.replicate_succ, byteLength, ih, one, Nat.add_comm]

theorem depth_indented (h : IsLine l) : depth (indented n l) = n := by
  rw [depth, indented, (takeWhile_append_of_stop (isBlank_replicate n) h.head).1,
    byteLength_replicate]

theorem trim_indented (h : IsLine l) : trim (indented n l) = l :=
  (trim_append_left (isBlank_replicate n) l).trans h.toIsTrimmed.trim_eq

theorem isEnded_indented (h : IsLine l) : IsEnded (indented n l) := by
  intro c hc
  rw [indented, List.getLast?_append_of_ne_nil _ h.ne] at hc
  exact h.last c hc

theorem newline_not_mem_indented (h : IsLine l) : '\n' ∉ indented n l := by
  intro mem
  rcases List.mem_append.1 mem with mem | mem
  · exact absurd (List.eq_of_mem_replicate mem) (by decide)
  · exact h.newline mem

theorem isBlankText_indented (h : IsLine l) : isBlankText (indented n l) = false := by
  rw [Bool.eq_false_iff, Ne, isBlankText_iff, ← trim_eq_nil_iff, trim_indented h]
  exact h.ne

/-- A line that is indented is no heading. -/
theorem heading?_indented (pos : 0 < n) (l : Text) : heading? (indented n l) = none := by
  obtain ⟨n, rfl⟩ := Nat.exists_eq_succ_of_ne_zero (Nat.ne_of_gt pos)
  rw [indented, List.replicate_succ, List.cons_append, heading?, splitOnce, if_neg (by decide)]
  cases splitOnce ':' (List.replicate n ' ' ++ l) with
  | none => rfl
  | some parts =>
    have flush : ∀ title ∈ titles, title.head? ≠ some ' ' := by decide
    have other : titles.contains (' ' :: parts.1) = false := by
      rw [Bool.eq_false_iff, Ne, List.contains_iff_mem]
      exact fun mem => flush _ mem rfl
    simp only [Option.map_some, other, Bool.false_and]
    rfl

end

/-! ## Sections -/

theorem gatherSections_of_body (h : ∀ l ∈ ls, heading? l = none) :
    gatherSections ls = (ls, []) := by
  induction ls with
  | nil => rfl
  | cons l ls ih =>
    rw [gatherSections, ih fun x hx => h x (List.mem_cons_of_mem _ hx), h l List.mem_cons_self]

namespace ArgSpec.IsWellFormed

theorem isLine_line (wf : spec.IsWellFormed) : IsLine spec.line := by
  have name := isLine_of_solid wf.name_ne fun c hc => (wf.name c hc).1
  have head : IsLine spec.head := by
    rw [head]
    split
    · exact name
    · next typeName optional h =>
      refine name.append (fun c hc => ?_) (by simp [(wf.isLine_typeText h).newline])
      rw [← List.cons_append, ← List.cons_append, List.getLast?_concat] at hc
      obtain rfl := Option.some.inj hc
      decide
  have first := wf.description spec.first List.mem_cons_self
  refine head.append (fun c hc => ?_) (by simp [first.newline])
  have last : (':' :: ' ' :: spec.first).getLast? = spec.first.getLast? :=
    List.getLast?_append_of_ne_nil [':', ' '] first.ne
  exact first.last c (last ▸ hc)

theorem mem_lines (wf : spec.IsWellFormed) (h : l ∈ spec.lines) :
    ∃ n l', l = indented n l' ∧ 0 < n ∧ IsLine l' := by
  rcases List.mem_cons.1 h with rfl | h
  · exact ⟨4, spec.line, rfl, by decide, wf.isLine_line⟩
  · obtain ⟨l', hl', rfl⟩ := List.mem_map.1 h
    exact ⟨8, l', rfl, by decide, wf.description l' (List.mem_cons_of_mem _ hl')⟩

end ArgSpec.IsWellFormed

theorem entriesOf_lines (wf : ∀ spec ∈ specs, spec.IsWellFormed) :
    entriesOf (specs.flatMap ArgSpec.lines) =
      specs.map fun spec => joinLines (spec.line :: spec.more) := by
  have full : ∀ spec ∈ specs, ∀ l ∈ spec.lines, isBlankText l = false := by
    intro spec hs l hl
    obtain ⟨n, l', rfl, -, line⟩ := (wf spec hs).mem_lines hl
    exact isBlankText_indented line
  have more : ∀ spec ∈ specs, ∀ l ∈ spec.more, IsLine l := fun spec hs l hl =>
    (wf spec hs).description l (List.mem_cons_of_mem _ hl)
  have flush : ∀ spec ∈ specs, depth (indented 4 spec.line) = 4 := fun spec hs =>
    depth_indented (wf spec hs).isLine_line
  have deeper : ∀ spec ∈ specs, ∀ l ∈ spec.more.map (indented 8), 4 < depth l := by
    intro spec hs l hl
    obtain ⟨l', hl', rfl⟩ := List.mem_map.1 hl
    rw [depth_indented (more spec hs l' hl')]
    decide
  have entries := entriesOf_flatMap flush deeper full
  refine entries.trans (List.map_congr_left fun spec hs => ?_)
  have same : ∀ l ∈ spec.more, (trim ∘ indented 8) l = l := fun l hl =>
    trim_indented (more spec hs l hl)
  rw [trim_indented (wf spec hs).isLine_line, List.map_map, List.map_congr_left same, List.map_id']

theorem readSection_lines (wf : ∀ spec ∈ specs, spec.IsWellFormed) :
    readSection ⟨"Args".toList, specs.flatMap ArgSpec.lines⟩ = .ok (specs.map ArgSpec.tag) := by
  have keyword : keywordOf? "Args".toList = some "param".toList := by decide
  have kind : TagKind.ofKeyword "param".toList = .param := by decide
  simp only [readSection, keyword, kind, entriesOf_lines wf]
  exact mapM_map_eq_ok fun spec hs => (wf spec hs).readEntry_entry

/-! ## Docstrings -/

theorem lines_argSection {summary : Text} (line : IsLine summary)
    (wf : ∀ spec ∈ specs, spec.IsWellFormed) : lines (dedent (argSection summary specs)) =
      summary :: [] :: "Args:".toList :: specs.flatMap ArgSpec.lines := by
  have title : IsLine "Args:".toList := by decide
  have entry : ∀ l ∈ specs.flatMap ArgSpec.lines, (IsEnded l ∧ '\n' ∉ l) ∧ l ≠ [] := by
    intro l hl
    obtain ⟨spec, hs, hl⟩ := List.mem_flatMap.1 hl
    obtain ⟨n, l', rfl, -, line⟩ := (wf spec hs).mem_lines hl
    exact ⟨⟨isEnded_indented line, newline_not_mem_indented line⟩,
      List.append_ne_nil_of_right_ne_nil _ line.ne⟩
  have body : ∀ l ∈ [] :: "Args:".toList :: specs.flatMap ArgSpec.lines,
      IsEnded l ∧ '\n' ∉ l := by
    simp only [List.forall_mem_cons]
    exact ⟨⟨nofun, List.not_mem_nil⟩, ⟨title.last, title.newline⟩, fun l hl => (entry l hl).1⟩
  have flush : commonDepth ([] :: "Args:".toList :: specs.flatMap ArgSpec.lines) = 0 := by
    have mem : "Args:".toList ∈ [] :: "Args:".toList :: specs.flatMap ArgSpec.lines := by simp
    exact Nat.le_zero.1 (commonDepth_le_depth mem (by decide))
  have last : (summary :: [] :: "Args:".toList :: specs.flatMap ArgSpec.lines).getLast? ≠
      some [] := by
    rw [List.getLast?_cons_cons, List.getLast?_cons_cons]
    intro e
    rcases List.mem_cons.1 (List.mem_of_getLast? e) with e | mem
    · exact title.ne e.symm
    · exact (entry [] mem).2 rfl
  rw [argSection, lines_dedent_joinLines line body flush,
    dropEmptyEnds_eq_self (by simpa using line.ne) last]

theorem gatherSections_argSection {summary : Text} (line : IsLine summary)
    (heading : heading? summary = none) (wf : ∀ spec ∈ specs, spec.IsWellFormed) :
    gatherSections (lines (dedent (argSection summary specs))) =
      ([summary, []], [⟨"Args".toList, specs.flatMap ArgSpec.lines⟩]) := by
  have body : ∀ l ∈ specs.flatMap ArgSpec.lines, heading? l = none := by
    intro l hl
    obtain ⟨spec, hs, hl⟩ := List.mem_flatMap.1 hl
    obtain ⟨n, l', rfl, pos, -⟩ := (wf spec hs).mem_lines hl
    exact heading?_indented pos l'
  have title : heading? "Args:".toList = some "Args".toList := by decide
  have empty : heading? [] = none := rfl
  rw [lines_argSection line wf]
  simp only [gatherSections, gatherSections_of_body body, title, empty, heading]

theorem read_argSection {summary : Text} (line : IsLine summary)
    (heading : heading? summary = none) (wf : ∀ spec ∈ specs, spec.IsWellFormed) :
    read (argSection summary specs) =
      .ok { short := some summary, tags := specs.map ArgSpec.tag } := by
  rw [read, gatherSections_argSection line heading wf]
  simp only [List.mapM_cons, List.mapM_nil, readSection_lines wf, ofDescription_joinLines_nil line,
    bind, Except.bind, pure, Except.pure, List.flatten_cons, List.flatten_nil, List.append_nil]

/-- Arguments with parentheses in their types, and with colons and headings in their descriptions. -/
def copyArgs : List ArgSpec := [
  ⟨"rows".toList, some ("dict(str, list(int))".toList, false), "the rows: all of them".toList,
    ["Returns:".toList, "note: they are copied".toList]⟩,
  ⟨"limit".toList, some ("int)".toList, true), "how many rows to copy. Defaults to 10".toList, []⟩,
  ⟨"**options".toList, none, "(see below)".toList, []⟩]

theorem read_copyArgs :
    IsLine "Copies rows: all of them.".toList ∧
    heading? "Copies rows: all of them.".toList = none ∧
    (∀ spec ∈ copyArgs, spec.IsWellFormed) ∧
    read (argSection "Copies rows: all of them.".toList copyArgs) = .ok {
      short := some "Copies rows: all of them.".toList
      tags := [
        { keyword := "param".toList, argName := some "rows".toList
          typeName := some "dict(str, list(int))".toList
          description :=
            some "the rows: all of them\nReturns:\nnote: they are copied".toList },
        { keyword := "param".toList, argName := some "limit".toList
          typeName := some "int)".toList, default := some "10".toList, optional := some true
          description := some "how many rows to copy. Defaults to 10".toList },
        { keyword := "param".toList, argName := some "**options".toList
          description := some "(see below)".toList }] } := by
  have line : IsLine "Copies rows: all of them.".toList := by decide
  have heading : heading? "Copies rows: all of them.".toList = none := by decide
  have wf : ∀ spec ∈ copyArgs, spec.IsWellFormed := by decide
  exact ⟨line, heading, wf, (read_argSection line heading wf).trans (by decide)⟩

end DocHarvest.Doc.Google
