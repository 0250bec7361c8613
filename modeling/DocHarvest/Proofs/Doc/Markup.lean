import DocHarvest.Proofs.Doc.Cleaning

/-!
# Markup tags and entities in a text

`IsMarkupTag` is the grammar of the tags that `markupTag?` recognises (`markupTag?_eq_some`). Such a
tag ends at its only closing angle, and an entity at its semicolon, so that text without these
characters takes no part in either (`markupTags_apply_append`, `entityNames_apply_append`). Nothing is
replaced in a text exactly if no piece of it is a tag or an entity (`misses_markupTags_iff`,
`misses_entityNames_iff`).
-/

namespace DocHarvest.Doc

open Text

variable {t rest tail : Text} {c : Char}

/-! ## The grammar of markup tags -/

/-- What may stand behind the name of an element: nothing, a slash, or attributes behind a blank. -/
def IsElementTail (more : Text) : Prop :=
  more = [] ∨ more = ['/'] ∨
    ∃ c attributes, more = c :: attributes ∧ isBlank c = true ∧ ∀ d ∈ attributes, d ≠ '<' ∧ d ≠ '>'

/-- A tag such as `<p>`, `</b>`, `<br/>` or `<a href="x">`: the name is of letters A to Z and digits, a
letter first. -/
def IsMarkupTag (tag : Text) : Prop :=
  ∃ slash first name more, tag = '<' :: (slash ++ first :: (name ++ more ++ ['>'])) ∧
    (slash = [] ∨ slash = ['/']) ∧ isAsciiLetter first = true ∧
    (∀ c ∈ name, isAsciiAlphanumeric c = true) ∧ IsElementTail more

theorem markupEnd?_eq_some : markupEnd? t = some rest ↔ t = '>' :: rest ∨ t = '/' :: '>' :: rest := by
  unfold markupEnd?
  split
  · simp
  · simp
  · next h h' => simpa using ⟨h rest, h' rest⟩

/-- Behind the blank that ends a name the tag goes on to the next angle, which must close it. -/
theorem markupEnd?_dropWhile : markupEnd? (t.dropWhile fun c => c ≠ '<' && c ≠ '>') = some rest ↔
    ∃ attributes, t = attributes ++ '>' :: rest ∧ ∀ c ∈ attributes, c ≠ '<' ∧ c ≠ '>' := by
  rw [markupEnd?_eq_some]
  constructor
  · have angle := List.head?_dropWhile_not (fun c => c ≠ '<' && c ≠ '>') t
    rintro (e | e)
    · refine ⟨t.takeWhile fun c => c ≠ '<' && c ≠ '>', ?_, fun c hc => ?_⟩
      · rw [← e, List.takeWhile_append_dropWhile]
      · simpa using List.mem_takeWhile_imp hc
    · rw [e] at angle
      cases angle
  · rintro ⟨attributes, rfl, free⟩
    left
    rw [List.dropWhile_append_of_pos fun c hc => by simpa using free c hc]
    exact List.dropWhile_cons_of_neg (by decide)

/-- What follows a tag is what follows its name, its tail and the closing angle. -/
theorem markupName?_eq_some : markupName? t = some rest ↔ ∃ first name more,
    t = first :: (name ++ more ++ '>' :: rest) ∧ isAsciiLetter first = true ∧
      (∀ c ∈ name, isAsciiAlphanumeric c = true) ∧ IsElementTail more := by
  constructor
  · intro h
    unfold markupName? at h
    split at h
    · cases h
    · next first t =>
      split at h
      · next letter =>
        have whole : t = t.takeWhile isAsciiAlphanumeric ++ t.dropWhile isAsciiAlphanumeric :=
          List.takeWhile_append_dropWhile.symm
        have name : ∀ c ∈ t.takeWhile isAsciiAlphanumeric, isAsciiAlphanumeric c = true :=
          fun c hc => List.mem_takeWhile_imp hc
        split at h
        · cases h
        · next d behind stop =>
          rw [stop] at whole
          refine ⟨first, t.takeWhile isAsciiAlphanumeric, ?_⟩
          split at h
          · next blank =>
            obtain ⟨attributes, rfl, free⟩ := markupEnd?_dropWhile.1 h
            exact ⟨d :: attributes, congrArg (first :: ·) (by simpa using whole), letter, name,
              .inr (.inr ⟨d, attributes, rfl, blank, free⟩)⟩
          · rcases markupEnd?_eq_some.1 h with e | e <;> obtain ⟨rfl, rfl⟩ := List.cons.inj e
            · exact ⟨[], congrArg (first :: ·) (by simpa using whole), letter, name, .inl rfl⟩
            · exact ⟨['/'], congrArg (first :: ·) (by simpa using whole), letter, name,
                .inr (.inl rfl)⟩
      · cases h
  · rintro ⟨first, name, more, rfl, letter, all, tail⟩
    rw [markupName?, if_pos letter, List.append_assoc, List.dropWhile_append_of_pos all]
    rcases tail with rfl | rfl | ⟨d, attributes, rfl, blank, free⟩
    · rfl
    · rfl
    · have outside : isAsciiAlphanumeric d = false := Unicode.isAlphanum_of_isBlank blank
      have stop : (d :: attributes ++ '>' :: rest).dropWhile isAsciiAlphanumeric =
          d :: (attributes ++ '>' :: rest) :=
        List.dropWhile_cons_of_neg (by simp [outside])
      rw [stop]
      simp only [blank, if_true]
      exact markupEnd?_dropWhile.2 ⟨attributes, rfl, free⟩

/-- What `markupTag?` takes off a text is a tag, and it takes every tag. -/
theorem markupTag?_eq_some : markupTag? t = some rest ↔ ∃ tag, IsMarkupTag tag ∧ t = tag ++ rest := by
  constructor
  · intro h
    unfold markupTag? at h
    split at h
    · obtain ⟨first, name, more, rfl, wf⟩ := markupName?_eq_some.1 h
      exact ⟨_, ⟨['/'], first, name, more, rfl, .inr rfl, wf⟩, by simp⟩
    · obtain ⟨first, name, more, rfl, wf⟩ := markupName?_eq_some.1 h
      exact ⟨_, ⟨[], first, name, more, rfl, .inl rfl, wf⟩, by simp⟩
    · cases h
  · rintro ⟨_, ⟨slash, first, name, more, rfl, slashed, letter, wf⟩, rfl⟩
    have read : markupName? (first :: (name ++ more ++ '>' :: rest)) = some rest :=
      markupName?_eq_some.2 ⟨first, name, more, rfl, letter, wf⟩
    have same : (name ++ more ++ ['>']) ++ rest = name ++ more ++ '>' :: rest := by simp
    rcases slashed with rfl | rfl
    · rw [List.nil_append, List.cons_append, List.cons_append, same, markupTag?]
      · exact read
      · -- a name does not begin with the slash of a closing tag
        intro t e
        obtain ⟨rfl, -⟩ := List.cons.inj e
        exact absurd letter (by decide)
    · rw [List.singleton_append, List.cons_append, List.cons_append, List.cons_append, same]
      exact read

/-- A tag ends with a closing angle. -/
theorem IsMarkupTag.getLast? {tag : Text} (h : IsMarkupTag tag) : tag.getLast? = some '>' := by
  obtain ⟨slash, first, name, more, rfl, -⟩ := h
  have parted : '<' :: (slash ++ first :: (name ++ more ++ ['>'])) =
      ('<' :: (slash ++ first :: (name ++ more))) ++ ['>'] := by simp
  rw [parted, List.getLast?_concat]

theorem entityNames_find? (t : Text) : entityNames.find? t =
    entities.findSome? fun entity => (dropLead? entity.1 t).map fun rest => (entity.2, rest) := rfl

/-! ## Pieces of a text -/

/-- A piece at the front of two texts lies in the first if its last character is not in the other. -/
theorem prefix_of_prefix_append {piece : Text} (last : piece.getLast? = some c) (free : c ∉ tail)
    (h : piece <+: t ++ tail) : piece <+: t := by
  obtain ⟨rest, e⟩ := h
  rcases List.append_eq_append_iff.1 e with ⟨more, rfl, -⟩ | ⟨extra, rfl, behind⟩
  · exact List.prefix_append _ _
  · cases extra with
    | nil => rw [List.append_nil]
    | cons d extra =>
      have mem : c ∈ d :: extra := by
        rw [List.getLast?_append_of_ne_nil _ (List.cons_ne_nil d extra)] at last
        exact List.mem_of_getLast? last
      exact absurd (behind ▸ List.mem_append_left rest mem) free

theorem markupTag?_append (free : '>' ∉ tail) (t : Text) :
    markupTag? (t ++ tail) = (markupTag? t).map (· ++ tail) := by
  cases found : markupTag? t with
  | some rest =>
    obtain ⟨tag, wf, rfl⟩ := markupTag?_eq_some.1 found
    exact markupTag?_eq_some.2 ⟨tag, wf, List.append_assoc _ _ _⟩
  | none =>
    rw [Option.map_none, Option.eq_none_iff_forall_ne_some]
    intro rest found'
    obtain ⟨tag, wf, e⟩ := markupTag?_eq_some.1 found'
    obtain ⟨rest', rfl⟩ := prefix_of_prefix_append wf.getLast? free ⟨rest, e.symm⟩
    exact absurd (found.symm.trans (markupTag?_eq_some.2 ⟨tag, wf, rfl⟩)) nofun

/-- Text without angles stays apart from the tags in front of it. -/
theorem markupTags_apply_append (opening : '<' ∉ tail) (closing : '>' ∉ tail) (t : Text) :
    markupTags.apply (t ++ tail) = markupTags.apply t ++ tail := by
  rw [Replacement.apply_append, markupTags_opensWith.apply_eq opening]
  intro t
  show (markupTag? (t ++ tail)).map _ = ((markupTag? t).map _).map _
  rw [markupTag?_append closing, Option.map_map, Option.map_map]
  rfl

theorem dropLead?_append {lead : Text} (last : lead.getLast? = some c) (free : c ∉ tail) (t : Text) :
    dropLead? lead (t ++ tail) = (dropLead? lead t).map (· ++ tail) := by
  cases found : dropLead? lead t with
  | some rest =>
    rw [dropLead?_eq_some.1 found]
    exact dropLead?_eq_some.2 (List.append_assoc _ _ _)
  | none =>
    rw [Option.map_none, dropLead?_eq_none]
    exact fun h => dropLead?_eq_none.1 found (prefix_of_prefix_append last free h)

theorem findSome?_congr {α β : Type} {f g : α → Option β} {as : List α} (h : ∀ a ∈ as, f a = g a) :
    as.findSome? f = as.findSome? g := by
  induction as with
  | nil => rfl
  | cons a as ih =>
    rw [List.findSome?_cons, List.findSome?_cons, h a List.mem_cons_self,
      ih fun b hb => h b (List.mem_cons_of_mem _ hb)]

/-- Text without ampersands and semicolons stays apart from the entities in front of it. -/
theorem entityNames_apply_append (opening : '&' ∉ tail) (closing : ';' ∉ tail) (t : Text) :
    entityNames.apply (t ++ tail) = entityNames.apply t ++ tail := by
  have ends : ∀ entity ∈ entities, entity.1.getLast? = some ';' := by decide
  rw [Replacement.apply_append, entityNames_opensWith.apply_eq opening]
  intro t
  rw [entityNames_find?, entityNames_find?, List.map_findSome?]
  refine findSome?_congr fun entity mem => ?_
  rw [dropLead?_append (ends entity mem) closing, Function.comp, Option.map_map, Option.map_map]
  rfl

/-- A text stays as it is under `markupTags` if no piece of it is a tag. -/
theorem misses_markupTags_iff :
    markupTags.Misses t ↔ ∀ tag, IsMarkupTag tag → ¬tag <:+: t := by
  have found : ∀ s, markupTags.find? s = none ↔ ∀ tag, IsMarkupTag tag → ¬tag <+: s := by
    intro s
    show (markupTag? s).map _ = none ↔ _
    rw [Option.map_eq_none_iff, Option.eq_none_iff_forall_ne_some]
    constructor
    · rintro none tag wf ⟨rest, rfl⟩
      exact none rest (markupTag?_eq_some.2 ⟨tag, wf, rfl⟩)
    · intro none rest h
      obtain ⟨tag, wf, rfl⟩ := markupTag?_eq_some.1 h
      exact none tag wf (List.prefix_append _ _)
  simp only [Replacement.Misses, found, List.infix_iff_prefix_suffix]
  exact ⟨fun h tag wf ⟨s, front, part⟩ => h s part tag wf front,
    fun h s part tag wf front => h tag wf ⟨s, front, part⟩⟩

/-- A text stays as it is under `entityNames` if no piece of it is an entity. -/
theorem misses_entityNames_iff :
    entityNames.Misses t ↔ ∀ entity ∈ entities, ¬entity.1 <:+: t := by
  have found : ∀ s, entityNames.find? s = none ↔ ∀ entity ∈ entities, ¬entity.1 <+: s := by
    intro s
    rw [entityNames_find?, List.findSome?_eq_none_iff]
    refine forall₂_congr fun entity _ => ?_
    rw [Option.map_eq_none_iff, dropLead?_eq_none]
  simp only [Replacement.Misses, found, List.infix_iff_prefix_suffix]
  exact ⟨fun h entity mem ⟨s, front, part⟩ => h s part entity mem front,
    fun h s part entity mem front => h entity mem ⟨s, front, part⟩⟩

/-! ## What the replacements keep -/

theorem markupTags_shrinks : markupTags.Shrinks := by
  intro t new rest found
  obtain ⟨rest, h, e⟩ := Option.map_eq_some_iff.1 found
  obtain ⟨rfl, rfl⟩ := Prod.mk.inj e
  simpa using length_of_markupTag? h

theorem entityNames_shrinks : entityNames.Shrinks := by
  intro t new rest found
  obtain ⟨entity, mem, found⟩ := List.exists_of_findSome?_eq_some found
  obtain ⟨rest, h, e⟩ := Option.map_eq_some_iff.1 found
  obtain ⟨rfl, rfl⟩ := Prod.mk.inj e
  have shorter : ∀ entity ∈ entities, entity.2.length < entity.1.length := by decide
  have := length_of_dropLead? h
  have := shorter entity mem
  omega

/-- Neither replacement puts in a line feed. -/
theorem newline_not_mem_apply (h : '\n' ∉ t) : '\n' ∉ entityNames.apply (markupTags.apply t) := by
  have free : ∀ c ∈ t, c ≠ '\n' := fun c hc e => h (e ▸ hc)
  have free' : ∀ c ∈ markupTags.apply t, c ≠ '\n' := by
    refine Replacement.forall_mem_apply (fun found keep => ?_) free
    obtain ⟨rest, h, e⟩ := Option.map_eq_some_iff.1 found
    obtain ⟨rfl, rfl⟩ := Prod.mk.inj e
    obtain ⟨tag, -, rfl⟩ := markupTag?_eq_some.1 h
    exact ⟨nofun, fun c hc => keep c (List.mem_append_right tag hc)⟩
  have free'' : ∀ c ∈ entityNames.apply (markupTags.apply t), c ≠ '\n' := by
    refine Replacement.forall_mem_apply (fun found keep => ?_) free'
    obtain ⟨entity, mem, found⟩ := List.exists_of_findSome?_eq_some found
    obtain ⟨rest, h, e⟩ := Option.map_eq_some_iff.1 found
    obtain ⟨rfl, rfl⟩ := Prod.mk.inj e
    have meant : ∀ entity ∈ entities, '\n' ∉ entity.2 := by decide
    rw [dropLead?_eq_some.1 h] at keep
    exact ⟨fun c hc e => meant entity mem (e ▸ hc), fun c hc => keep c (List.mem_append_right _ hc)⟩
  exact fun mem => free'' _ mem rfl

end DocHarvest.Doc
