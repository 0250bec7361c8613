import DocHarvest.Json.Record
import DocHarvest.Proofs.Json.Tokens

/-!
# Reading records back

An object whose members are texts is read through a schema member by member. `Progress.give?` is what
one member does to a record; if every member does its part, the object is read as the record that they
make (`Schema.readJson_render`).
-/

namespace DocHarvest.Json

variable {α : Type} {schema : Schema α}

/-- Members whose values are texts. -/
def textMembers (members : List (Text × Text)) : List (Text × Json) :=
  members.map fun member => (member.1, .text member.2)

/-- Puts a text into the field of that name, if there is one for texts that was not given yet. -/
def Progress.give? (schema : Schema α) (p : Progress α) (member : Text × Text) :
    Option (Progress α) :=
  match schema.field? member.1 with
  | some ⟨name, _, .text put⟩ =>
    if p.given.contains name then none else some ⟨put member.2 p.record, name :: p.given⟩
  | _ => none

/-- What one member does, whatever follows it. -/
theorem readValue_of_give? {p p' : Progress α} {member : Text × Text}
    (h : p.give? schema member = some p') (rest : List Token) :
    readValue schema p member.1 (.colon :: .string (member.2.map partOf) :: rest) =
      .ok (p', rest) := by
  unfold Progress.give? at h
  split at h
  · next name aliases put found =>
    split at h
    · exact absurd h nofun
    · next fresh =>
      obtain rfl := Option.some.inj h
      rw [readValue, found]
      simp only [fresh, readSlot, readText, decode?_map_partOf]
      rfl
  · exact absurd h nofun

/-! ## Members -/

theorem readMembers_comma {p p' : Progress α} {name : Text} {tokens rest : List Token}
    (h : readValue schema p name tokens = .ok (p', .comma :: rest)) :
    readMembers schema p (.string (name.map partOf) :: tokens) = readMembers schema p' rest := by
  rw [readMembers, decode?_map_partOf]
  dsimp only
  rw [h]

theorem readMembers_closeObject {p p' : Progress α} {name : Text} {tokens rest : List Token}
    (h : readValue schema p name tokens = .ok (p', .closeObject :: rest)) :
    readMembers schema p (.string (name.map partOf) :: tokens) =
      (p'.finish schema).map (·, rest) := by
  rw [readMembers, decode?_map_partOf]
  dsimp only
  rw [h]

/-- The members of an object are read one after another. -/
theorem readMembers_of_give? {p p' : Progress α} {members : List (Text × Text)} (ne : members ≠ [])
    (h : members.foldlM (Progress.give? schema) p = some p') (rest : List Token) :
    readMembers schema p (memberTokens (textMembers members) ++ .closeObject :: rest) =
      (p'.finish schema).map (·, rest) := by
  induction members generalizing p with
  | nil => exact absurd rfl ne
  | cons member members ih =>
    rw [List.foldlM_cons] at h
    obtain ⟨q, given, more⟩ := Option.bind_eq_some_iff.1 h
    cases members with
    | nil =>
      obtain rfl : q = p' := Option.some.inj more
      exact readMembers_closeObject (readValue_of_give? given _)
    | cons next members =>
      have read := readValue_of_give? given
        (.comma :: (memberTokens (textMembers (next :: members)) ++ .closeObject :: rest))
      exact (readMembers_comma read).trans (ih (List.cons_ne_nil next members) more)

/-- An object of texts is read as the record that its members make. -/
theorem readJson_render {members : List (Text × Text)} {p : Progress α} {record : α}
    (ne : members ≠ []) (given : members.foldlM (Progress.give? schema) ⟨schema.blank, []⟩ = some p)
    (finish : p.finish schema = .ok record) :
    schema.readJson (render (.object (textMembers members))) = .ok record := by
  have cut := lex_render (.object (textMembers members)) [] rfl
  rw [List.append_nil, show lex [] = [] by simp [lex], List.append_nil] at cut
  have read := readMembers_of_give? ne given []
  rw [finish] at read
  have object : readRecord schema (tokens (.object (textMembers members))) = .ok (record, []) := by
    obtain ⟨member, members, rfl⟩ := List.exists_cons_of_ne_nil ne
    -- the first token behind the brace is a name
    cases members <;> exact read
  rw [Schema.readJson, cut, object]

end DocHarvest.Json
