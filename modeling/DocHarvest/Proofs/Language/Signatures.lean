import DocHarvest.Proofs.Doc.FieldsJson
import DocHarvest.Proofs.Language.Lawful
import DocHarvest.Proofs.Traversal

/-!
# The parameters of a signature

In every language the parameters of a function are inserted into a map one after another
(`Language.exists_parameters_eq_ofList`). `isFilledBy_and_readBack` : what is found in such a map, and
that it is written as one object without repeated names and comes back from its text.
-/

namespace DocHarvest

open Text Doc

/-- A member with the text that it has as its value. -/
def Json.textMember? (member : Text × Json) : Option (Text × Text) :=
  member.2.text?.map (member.1, ·)

/-- The members of an object inserted into a map one after another, if all of them are texts. -/
def Json.textMap? : Json → Option Parameters
  | object members => (members.mapM textMember?).map OrderedMap.ofList
  | _ => none

theorem textMap?_parametersJson {m : Parameters} (distinct : m.names.Nodup) :
    (parametersJson m).textMap? = some m := by
  have read : (m.entries.map fun entry => (entry.1, Json.text entry.2)).mapM Json.textMember? =
      some m.entries := mapM_map_eq_some fun _ _ => rfl
  rw [parametersJson, Json.textMap?, read, Option.map_some, OrderedMap.ofList_of_nodup distinct]

theorem JavaScript.exists_parameters_eq_ofList (function : Node) (source : SourceLines) :
    ∃ pairs, (functionMetadata function source).parameters = OrderedMap.ofList pairs := by
  simp only [functionMetadata]
  cases callable? function with
  | none => exact ⟨[], rfl⟩
  | some callable =>
    simp only [Option.map_some, Option.getD_some, parameters]
    split <;> exact ⟨_, rfl⟩

theorem Language.exists_parameters_eq_ofList (l : Language) (function : Node)
    (source : SourceLines) : ∃ pairs,
      (l.rules.functionMetadata function source).parameters = OrderedMap.ofList pairs := by
  cases l with
  | python | java | go | ruby => exact ⟨_, rfl⟩
  | javaScript | typeScript => exact JavaScript.exists_parameters_eq_ofList function source

/-- A map into which pairs were inserted one after another has each name once, in the order in which
the names first came, with what was last inserted under it. Its text is an object with just these
members, and the map is read from it. The parameters of a function in any language are such a map. -/
theorem isFilledBy_and_readBack :
    (∀ pairs : List (Text × Text),
      (OrderedMap.ofList pairs).IsFilledBy pairs ∧
      (∃ members : List (Text × Json),
        Json.parse? (parametersJson (OrderedMap.ofList pairs)).render = some (.object members) ∧
        (members.map Prod.fst).Nodup ∧
        members = (pairs.map Prod.fst).eraseDups.filterMap fun name =>
          (OrderedMap.last? pairs name).map fun typeName => (name, .text typeName)) ∧
      (Json.parse? (parametersJson (OrderedMap.ofList pairs)).render).bind Json.textMap? =
        some (OrderedMap.ofList pairs)) ∧
    ∀ (l : Language) (function : Node) (source : SourceLines), ∃ pairs,
      (l.rules.functionMetadata function source).parameters = OrderedMap.ofList pairs := by
  refine ⟨fun pairs => ?_, Language.exists_parameters_eq_ofList⟩
  have filled := OrderedMap.isFilledBy_ofList pairs
  refine ⟨filled, ⟨_, Json.parse?_render _, ?_, ?_⟩, ?_⟩
  · rw [List.map_map]
    exact filled.nodup
  · rw [filled.entries, List.map_filterMap]
    simp only [Option.map_map, Function.comp_def]
  · rw [Json.parse?_render, Option.bind_some, textMap?_parametersJson filled.nodup]

/-- A name that is inserted twice, and one that JSON writes with an escape. -/
example :
    (OrderedMap.ofList [("a".toList, "int".toList), ("\"b".toList, "long".toList),
      ("a".toList, "String".toList)]).entries =
      [("a".toList, "String".toList), ("\"b".toList, "long".toList)] := by
  decide

end DocHarvest
