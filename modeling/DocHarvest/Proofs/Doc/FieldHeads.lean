import DocHarvest.Proofs.Doc.FieldLists
import DocHarvest.Proofs.Traversal
import DocHarvest.Proofs.Unicode.Words

/-!
# Fields without a colon behind their words

A field is read together with the lines behind it, so that a colon on one of these ends its words
where its own line has none. Such a docstring is refused exactly if these lines have no colon either,
or the words before the first one are not those of a field (`read_isError_iff_of_bare`).
-/

namespace DocHarvest.Doc.Rest

open Text

variable {l t line : Text} {ls behind : List Text}

/-! ## The words of a field -/

/-- The words before the first colon of a text, if it has one. -/
def wordsToColon? (t : Text) : Option (List Text) := (splitOnce ':' t).map fun parts => words parts.1

/-- Whether words are those of a field: a keyword with as many arguments as it can have. A parameter
has a name and maybe a type, the result, values handed out and exceptions have at most a type, and
other keywords have any number of arguments. -/
def isHead : List Text → Bool
  | [] => false
  | keyword :: arguments =>
    match TagKind.ofKeyword keyword with
    | .param => arguments.length = 1 || arguments.length = 2
    | .returns | .raises | .yields => arguments.length ≤ 1
    | .other => true

/-- A field among lines: the line that starts it, and the lines behind it up to the next one that
starts a field. -/
def IsFieldIn (ls : List Text) (line : Text) (behind : List Text) : Prop :=
  ∃ before after, ls = before ++ line :: (behind ++ after) ∧ startsField line = true ∧
    (∀ l ∈ behind, startsField l = false) ∧ ∀ l ∈ after.head?, startsField l = true

/-- The words between the colon that starts a field and the next one, if there is one. -/
def fieldWords? (field : List Text) : Option (List Text) :=
  wordsToColon? ((joinLines field).drop 1)

/-- Whether what stands between the first two colons of a field are the words of a field. -/
def isReadable (line : Text) (behind : List Text) : Bool :=
  (fieldWords? (trimStart line :: behind)).any isHead

/-! ## Reading one field -/

section
variable {keyword description field : Text} {arguments : List Text}

theorem exists_fieldTag_eq_ok_iff :
    (∃ tag, fieldTag keyword arguments description field = .ok tag) ↔
      isHead (keyword :: arguments) = true := by
  have kind : (({ keyword } : DocTag).withDescription description).kind =
      TagKind.ofKeyword keyword := rfl
  simp only [fieldTag, kind, isHead]
  cases TagKind.ofKeyword keyword with
  | param =>
    rcases arguments with _ | ⟨typeName, _ | ⟨name, _ | ⟨_, _⟩⟩⟩
    case cons.cons.nil =>
      refine iff_of_true ?_ rfl
      dsimp only
      split <;> exact ⟨_, rfl⟩
    all_goals simp
  | returns | raises | yields | other => rcases arguments with _ | ⟨_, _ | ⟨_, _⟩⟩ <;> simp

theorem exists_readWords_eq_ok_iff :
    (∃ said, readWords keyword arguments description field = .ok said) ↔
      isHead (keyword :: arguments) = true := by
  by_cases h : keyword ∈ typeKeywords
  · -- with any number of arguments: the field is a type, or a tag of no special kind
    have other : TagKind.ofKeyword keyword = .other := by
      have all : ∀ keyword ∈ typeKeywords, TagKind.ofKeyword keyword = .other := by decide
      exact all keyword h
    have head : isHead (keyword :: arguments) = true := by simp only [isHead, other]
    obtain ⟨tag, ok⟩ :
        ∃ tag, fieldTag keyword arguments description field = .ok tag :=
      exists_fieldTag_eq_ok_iff.2 head
    refine iff_of_true ?_ head
    unfold readWords
    split
    · exact ⟨_, rfl⟩
    split
    · exact ⟨_, rfl⟩
    split
    · exact ⟨_, rfl⟩
    exact ⟨_, by rw [ok]; rfl⟩
  · rw [readWords_eq_fieldTag h, ← exists_fieldTag_eq_ok_iff, exists_map_eq_ok_iff]

theorem exists_readField_eq_ok_iff :
    (∃ said, readField field = .ok said) ↔ (wordsToColon? (field.drop 1)).any isHead = true := by
  rw [wordsToColon?]
  cases parts : splitOnce ':' (field.drop 1) with
  | none =>
    rw [readField, parts]
    exact iff_of_false (by simp) (by simp)
  | some pair =>
    obtain ⟨head, description⟩ := pair
    rw [Option.map_some, Option.any_some]
    cases ws : words head with
    | nil =>
      simp only [readField, parts, ws]
      exact iff_of_false (by simp) (by simp [isHead])
    | cons keyword arguments => rw [readField_eq parts ws, exists_readWords_eq_ok_iff]

end

/-- A docstring can be read if all its fields can. -/
theorem exists_read_eq_ok_iff (t : Text) : (∃ doc, read t = .ok doc) ↔
    ∀ field ∈ (gatherFields (lines (dedent t))).2, (fieldWords? field).any isHead = true := by
  have each :
      (∃ said, ((gatherFields (lines (dedent t))).2.map joinLines).mapM readField = .ok said) ↔
      ∀ field ∈ (gatherFields (lines (dedent t))).2, (fieldWords? field).any isHead = true := by
    rw [exists_mapM_eq_ok_iff, List.forall_mem_map]
    simp only [exists_readField_eq_ok_iff, fieldWords?]
  rw [← each]
  simp only [read, bind, Except.bind, pure, Except.pure]
  cases ((gatherFields (lines (dedent t))).2.map joinLines).mapM readField with
  | error e => exact iff_of_false (by simp) (by simp)
  | ok said => exact iff_of_true ⟨_, rfl⟩ ⟨said, rfl⟩

/-! ## The fields of a docstring -/

theorem isFieldIn_cons : IsFieldIn (l :: ls) line behind ↔
    (startsField l = true ∧ line = l ∧ behind = ls.takeWhile (!startsField ·)) ∨
      IsFieldIn ls line behind := by
  constructor
  · rintro ⟨before, after, e, starts, inside, next⟩
    cases before with
    | nil =>
      -- the field is the first line, with all lines up to the next field behind it
      obtain ⟨rfl, rfl⟩ := List.cons.inj e
      have all : ∀ l ∈ behind, (!startsField l) = true := fun l hl => by simp [inside l hl]
      have stop : ∀ l ∈ after.head?, (!startsField l) = false := fun l hl => by simp [next l hl]
      exact .inl ⟨starts, rfl, (takeWhile_append_of_stop all stop).1.symm⟩
    | cons _ before =>
      obtain ⟨-, rfl⟩ := List.cons.inj e
      exact .inr ⟨before, after, rfl, starts, inside, next⟩
  · rintro (⟨starts, rfl, rfl⟩ | ⟨before, after, rfl, field⟩)
    · refine ⟨[], ls.dropWhile (!startsField ·), ?_, starts, fun l hl => ?_, fun l hl => ?_⟩
      · rw [List.takeWhile_append_dropWhile]
        rfl
      · simpa using List.mem_takeWhile_imp hl
      · have := List.head?_dropWhile_not (!startsField ·) ls
        rw [Option.mem_def.1 hl] at this
        simpa using this
    · exact ⟨l :: before, after, rfl, field⟩

theorem gatherFields_fst (ls : List Text) :
    (gatherFields ls).1 = ls.takeWhile (!startsField ·) := by
  induction ls with
  | nil => rfl
  | cons l ls ih =>
    rw [gatherFields_cons]
    cases starts : startsField l <;> simp [starts, ih]

theorem mem_gatherFields {field : List Text} : field ∈ (gatherFields ls).2 ↔
    ∃ line behind, IsFieldIn ls line behind ∧ field = trimStart line :: behind := by
  induction ls with
  | nil =>
    refine iff_of_false List.not_mem_nil ?_
    rintro ⟨line, behind, ⟨before, after, e, -⟩, -⟩
    exact absurd e.symm (by simp)
  | cons l ls ih =>
    rw [gatherFields_cons]
    cases starts : startsField l with
    | true =>
      simp only [if_true, List.mem_cons, ih, gatherFields_fst, isFieldIn_cons, starts, true_and]
      constructor
      · rintro (rfl | ⟨line, behind, field, rfl⟩)
        · exact ⟨l, _, .inl ⟨rfl, rfl⟩, rfl⟩
        · exact ⟨line, behind, .inr field, rfl⟩
      · rintro ⟨line, behind, ⟨rfl, rfl⟩ | field, rfl⟩
        · exact .inl rfl
        · exact .inr ⟨line, behind, field, rfl⟩
    | false => simp [ih, isFieldIn_cons, starts]

/-! ## Words and lines -/

theorem wordsToColon?_append_cons {c : Char} (blank : isBlank c = true) (a b : Text) :
    wordsToColon? (a ++ c :: b) =
      (wordsToColon? a).or ((wordsToColon? b).map (words a ++ ·)) := by
  have ne : c ≠ ':' := by
    rintro rfl
    exact absurd blank (by decide)
  simp only [wordsToColon?, splitOnce_append, splitOnce, if_neg ne]
  cases splitOnce ':' a with
  | some parts => rfl
  | none =>
    cases splitOnce ':' b with
    | none => rfl
    | some parts => simp [words_append_cons blank]

theorem wordsToColon?_of_isBlank (blank : IsBlank t) : wordsToColon? t = none := by
  have absent : ':' ∉ t := fun mem => absurd (blank _ mem) (by decide)
  rw [wordsToColon?, splitOnce_of_not_mem absent, Option.map_none]

theorem wordsToColon?_append_left {lead : Text} (blank : IsBlank lead) (t : Text) :
    wordsToColon? (lead ++ t) = wordsToColon? t := by
  induction lead with
  | nil => rfl
  | cons c lead ih =>
    rw [List.cons_append]
    have parted := wordsToColon?_append_cons (blank c List.mem_cons_self) [] (lead ++ t)
    rw [List.nil_append, ih fun x hx => blank x (List.mem_cons_of_mem _ hx)] at parted
    have empty : wordsToColon? [] = none ∧ words [] = [] := ⟨rfl, rfl⟩
    simpa [empty] using parted

theorem wordsToColon?_append_right (t : Text) {tail : Text} (blank : IsBlank tail) :
    wordsToColon? (t ++ tail) = wordsToColon? t := by
  cases tail with
  | nil => rw [List.append_nil]
  | cons c tail =>
    rw [wordsToColon?_append_cons (blank c List.mem_cons_self),
      wordsToColon?_of_isBlank fun x hx => blank x (List.mem_cons_of_mem _ hx), Option.map_none,
      Option.or_none]

theorem wordsToColon?_trim (t : Text) : wordsToColon? (trim t) = wordsToColon? t := by
  obtain ⟨lead, tail, e, blank, blank'⟩ := exists_eq_trim t
  conv => rhs; rw [e, wordsToColon?_append_right _ blank', wordsToColon?_append_left blank]

/-- The words up to the first colon of a line and the lines behind it, where `behind` are those of
the lines behind. -/
def wordsFrom (l : Text) (behind : Option (List Text)) : Option (List Text) :=
  (wordsToColon? l).or (behind.map (words l ++ ·))

theorem wordsToColon?_joinLines_cons (l : Text) (ls : List Text) :
    wordsToColon? (joinLines (l :: ls)) = wordsFrom l (wordsToColon? (joinLines ls)) := by
  cases ls with
  | nil =>
    have none : wordsToColon? (joinLines []) = none := rfl
    rw [wordsFrom, none, Option.map_none, Option.or_none]
    rfl
  | cons next ls =>
    exact wordsToColon?_append_cons (by decide) l (joinLines (next :: ls))

/-- White space at the end of a line does not count. -/
theorem wordsFrom_append_right (l : Text) {tail : Text} (blank : IsBlank tail) :
    wordsFrom (l ++ tail) = wordsFrom l := by
  funext behind
  rw [wordsFrom, wordsToColon?_append_right l blank, words_append_right l blank, wordsFrom]

theorem wordsFrom_trim (l : Text) : wordsFrom (trim l) = wordsFrom l := by
  funext behind
  rw [wordsFrom, wordsToColon?_trim, words_trim, wordsFrom]

/-! ## Reading lines from the last to the first

The words of every field depend on the lines only up to white space at their ends and up to empty
lines at either end, which is all that goes with the common indentation.
-/

/-- Adds a line in front of lines whose words up to the first colon are known: those of the lines
before the first field, and those of every field. -/
def addLine (l : Text) (known : Option (List Text) × List (Option (List Text))) :
    Option (List Text) × List (Option (List Text)) :=
  if startsField l then (none, wordsFrom (trimStart l).tail known.1 :: known.2)
  else (wordsFrom l known.1, known.2)

/-- Behind the colon that starts it, the lines of a field are read like others. -/
theorem fieldWords?_cons (starts : startsField line = true) :
    fieldWords? (trimStart line :: behind) =
      wordsFrom (trimStart line).tail (wordsToColon? (joinLines behind)) := by
  obtain ⟨rest, e⟩ : ∃ rest, trimStart line = ':' :: rest := by
    rw [startsField] at starts
    split at starts
    · exact ⟨_, ‹_›⟩
    · cases starts
  rw [← wordsToColon?_joinLines_cons, fieldWords?, e]
  cases behind <;> rfl

theorem foldr_addLine (ls : List Text) : ls.foldr addLine (none, []) =
    (wordsToColon? (joinLines (gatherFields ls).1), (gatherFields ls).2.map fieldWords?) := by
  induction ls with
  | nil => rfl
  | cons l ls ih =>
    rw [List.foldr_cons, ih, addLine, gatherFields_cons]
    cases starts : startsField l with
    | false =>
      simp only [Bool.false_eq_true, if_false]
      rw [wordsToColon?_joinLines_cons]
    | true =>
      simp only [if_true, List.map_cons, fieldWords?_cons starts]
      rfl

/-- White space is no part of a keyword. -/
theorem takeWhile_isWordChar_append (t : Text) {tail : Text} (blank : IsBlank tail) :
    (t ++ tail).takeWhile Unicode.isWordChar = t.takeWhile Unicode.isWordChar := by
  induction t with
  | nil =>
    cases tail with
    | nil => rfl
    | cons c tail =>
      have edge := Unicode.isWordChar_of_isBlank (blank c List.mem_cons_self)
      exact List.takeWhile_cons_of_neg (by simp [edge])
  | cons c t ih => rw [List.cons_append, List.takeWhile_cons, List.takeWhile_cons, ih]

theorem startsField_eq {c : Char} {rest : Text} (e : trimStart l = c :: rest) : startsField l =
    (c = ':' && fieldKeywords.contains (rest.takeWhile Unicode.isWordChar)) := by
  rw [startsField, e]
  split
  · next h =>
    obtain ⟨rfl, rfl⟩ := List.cons.inj h
    simp
  · next h =>
    have other : c ≠ ':' := fun colon => h rest (by rw [colon])
    simp [other]

theorem startsField_trim (l : Text) : startsField (trim l) = startsField l := by
  rcases trim_eq_nil_or l with ⟨e, e'⟩ | ⟨c, rest, tail, e, e', blank⟩
  · rw [startsField, startsField, trimStart_trim, e, e']
  · rw [startsField_eq e, startsField_eq ((trimStart_trim l).trans e'),
      takeWhile_isWordChar_append rest blank]

theorem addLine_trim (l : Text) : addLine (trim l) = addLine l := by
  have field : wordsFrom (trimStart (trim l)).tail = wordsFrom (trimStart l).tail := by
    rw [trimStart_trim]
    rcases trim_eq_nil_or l with ⟨e, e'⟩ | ⟨c, rest, tail, e, e', blank⟩
    · rw [e, e']
    · rw [e, e']
      exact (wordsFrom_append_right rest blank).symm
  funext known
  rw [addLine, startsField_trim, field, wordsFrom_trim, addLine]

theorem foldr_addLine_of_map_trim {ls' : List Text} (same : ls'.map trim = ls.map trim)
    (known : Option (List Text) × List (Option (List Text))) :
    ls'.foldr addLine known = ls.foldr addLine known := by
  have each : ∀ ls : List Text, (ls.map trim).foldr addLine known = ls.foldr addLine known := by
    intro ls
    rw [List.foldr_map]
    simp only [addLine_trim]
  rw [← each, same, each]

theorem foldr_addLine_of_empty {ls : List Text} (empty : ∀ l ∈ ls, l = [])
    (known : Option (List Text) × List (Option (List Text))) : ls.foldr addLine known = known := by
  induction ls with
  | nil => rfl
  | cons l ls ih =>
    obtain rfl := empty l List.mem_cons_self
    rw [List.foldr_cons, ih fun x hx => empty x (List.mem_cons_of_mem _ hx)]
    obtain ⟨_ | ws, fields⟩ := known <;> rfl

theorem foldr_addLine_dedentLines (ls : List Text) :
    (dedentLines ls).foldr addLine (none, []) = ls.foldr addLine (none, []) := by
  obtain ⟨ls', e, same⟩ := exists_dedentLines_eq ls
  obtain ⟨lead, tail, parts, empty, empty'⟩ := exists_eq_dropEmptyEnds ls'
  -- lines change at their ends only, and then empty ones go
  rw [e, ← foldr_addLine_of_map_trim same]
  conv => enter [2, 3]; rw [parts]
  rw [List.foldr_append, List.foldr_append, foldr_addLine_of_empty empty',
    foldr_addLine_of_empty empty]

/-! ## Docstrings -/

/-- Taking the common indentation off leaves the words of every field as they are. -/
theorem fieldWords?_dedent (t : Text) :
    (gatherFields (lines (dedent t))).2.map fieldWords? =
      (gatherFields (splitLines t)).2.map fieldWords? := by
  have same := foldr_addLine_dedentLines (splitLines t)
  rw [← lines_dedent, foldr_addLine, foldr_addLine] at same
  exact congrArg Prod.snd same

/-- A docstring can be read if what stands between the first two colons of each of its fields are the
words of a field. -/
theorem exists_read_eq_ok_iff_isReadable (t : Text) : (∃ doc, read t = .ok doc) ↔
    ∀ line behind, IsFieldIn (splitLines t) line behind → isReadable line behind = true := by
  have each : ∀ ls : List Text,
      (∀ field ∈ (gatherFields ls).2, (fieldWords? field).any isHead = true) ↔
        ∀ ws ∈ (gatherFields ls).2.map fieldWords?, ws.any isHead = true := by
    simp
  rw [exists_read_eq_ok_iff, each, fieldWords?_dedent, ← each]
  constructor
  · exact fun all line behind field => all _ (mem_gatherFields.2 ⟨line, behind, field, rfl⟩)
  · intro all field mem
    obtain ⟨line, behind, field, rfl⟩ := mem_gatherFields.1 mem
    exact all line behind field

theorem read_isError_iff (t : Text) : (∃ e, read t = .error e) ↔
    ∃ line behind, IsFieldIn (splitLines t) line behind ∧ isReadable line behind = false := by
  have refused : (∃ e, read t = .error e) ↔ ¬ ∃ doc, read t = .ok doc := by
    cases read t <;> simp
  rw [refused, exists_read_eq_ok_iff_isReadable]
  simp

theorem IsFieldIn.isReadable_eq (field : IsFieldIn ls line behind)
    (bare : ':' ∉ (trimStart line).tail) :
    isReadable line behind = (wordsToColon? (joinLines behind)).any
      fun ws => isHead (words (trimStart line).tail ++ ws) := by
  obtain ⟨before, after, -, starts, -⟩ := field
  have none : wordsToColon? (trimStart line).tail = none := by
    rw [wordsToColon?, splitOnce_of_not_mem bare, Option.map_none]
  rw [isReadable, fieldWords?_cons starts, wordsFrom, none, Option.none_or, Option.any_map]

/-- A field with no second colon on its line is refused if the lines behind it do not end its words as
those of a field; otherwise only another field can have the docstring refused. -/
theorem read_isError_iff_of_bare (field : IsFieldIn (splitLines t) line behind)
    (bare : ':' ∉ (trimStart line).tail) : (∃ e, read t = .error e) ↔
      (∀ ws ∈ wordsToColon? (joinLines behind),
        isHead (words (trimStart line).tail ++ ws) = false) ∨
      ∃ line' behind', (line', behind') ≠ (line, behind) ∧
        IsFieldIn (splitLines t) line' behind' ∧ isReadable line' behind' = false := by
  have refused : isReadable line behind = false ↔ ∀ ws ∈ wordsToColon? (joinLines behind),
      isHead (words (trimStart line).tail ++ ws) = false := by
    rw [field.isReadable_eq bare, Option.any_eq_false]
    simp
  rw [read_isError_iff, ← refused]
  constructor
  · rintro ⟨line', behind', field', no⟩
    by_cases same : (line', behind') = (line, behind)
    · -- the refused field is the one without a colon
      obtain ⟨rfl, rfl⟩ := Prod.mk.inj same
      exact .inl no
    · exact .inr ⟨line', behind', same, field', no⟩
  · rintro (no | ⟨line', behind', -, field', no⟩)
    · exact ⟨line, behind, field, no⟩
    · exact ⟨line', behind', field', no⟩

/-- A parameter is described on the line behind it, without a colon. -/
theorem read_descriptionBelow :
    IsFieldIn (splitLines "Adds rows.\n:param rows\n    the rows to add\n:returns: how many".toList)
      ":param rows".toList ["    the rows to add".toList] ∧
    ':' ∉ (trimStart ":param rows".toList).tail ∧
    ∃ e, read "Adds rows.\n:param rows\n    the rows to add\n:returns: how many".toList =
      .error e := by
  have field : IsFieldIn
      (splitLines "Adds rows.\n:param rows\n    the rows to add\n:returns: how many".toList)
      ":param rows".toList ["    the rows to add".toList] :=
    ⟨["Adds rows.".toList], [":returns: how many".toList], by decide, by decide,
      by decide, by decide⟩
  have bare : ':' ∉ (trimStart ":param rows".toList).tail := by decide
  exact ⟨field, bare, (read_isError_iff_of_bare field bare).2 (.inl (by decide))⟩

/-- A word that ends with a colon on the next line is read as the name of the parameter. -/
theorem read_nameBelow :
    IsFieldIn (splitLines "Adds rows.\n:param rows\n    note: the rows to add".toList)
      ":param rows".toList ["    note: the rows to add".toList] ∧
    ':' ∉ (trimStart ":param rows".toList).tail ∧
    read "Adds rows.\n:param rows\n    note: the rows to add".toList = .ok {
      short := some "Adds rows.".toList
      tags := [{
        keyword := "param".toList, argName := some "note".toList, typeName := some "rows".toList
        description := some "the rows to add".toList }] } := by
  refine ⟨⟨["Adds rows.".toList], [], ?_, ?_, ?_, ?_⟩, ?_, ?_⟩ <;> decide

end DocHarvest.Doc.Rest
