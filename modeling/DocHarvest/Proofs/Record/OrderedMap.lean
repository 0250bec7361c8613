import DocHarvest.Record.OrderedMap
import Mathlib.Data.List.Basic
import Mathlib.Data.List.Induction

/-!
# Maps filled by insertion

`nodup_names_ofList` : pairs inserted one after another give a map with distinct names. These are the
inserted ones in the order in which they first came (`names_insert_of_eq_eraseDups`).
`ofList_of_nodup` : where no name repeats, the map has the pairs as its entries; so each pair is
found under its name (`get?_of_mem`).

`IsFilledBy` says what all readers find in a map into which pairs were inserted; an insertion keeps it
(`IsFilledBy.insert`), so that it holds after every run of them (`isFilledBy_ofList`).
-/

namespace DocHarvest.OrderedMap

variable {α : Type}

/-! ## Insertion -/

theorem names_insert_of_mem {m : OrderedMap α} {name : Text} (a : α) (h : name ∈ m.names) :
    (m.insert name a).names = m.names := by
  rw [names_insert, if_pos h]

theorem mem_names_insert {m : OrderedMap α} {name other : Text} {a : α} :
    other ∈ (m.insert name a).names ↔ other ∈ m.names ∨ other = name := by
  rw [names_insert]
  split
  · next h => exact ⟨.inl, fun h' => h'.elim id fun e => e ▸ h⟩
  · simp

theorem eraseDups_concat (names : List Text) (name : Text) : (names ++ [name]).eraseDups =
    if name ∈ names then names.eraseDups else names.eraseDups ++ [name] := by
  rw [List.eraseDups_append]
  by_cases h : name ∈ names
  · simp [List.removeAll, h]
  · simp [List.removeAll, h, List.eraseDups_cons]

/-- Where the names are those that came so far, each once, they are so after an insertion. -/
theorem names_insert_of_eq_eraseDups {m : OrderedMap α} {came : List Text}
    (h : m.names = came.eraseDups) (name : Text) (a : α) :
    (m.insert name a).names = (came ++ [name]).eraseDups := by
  rw [names_insert, eraseDups_concat, h]
  simp only [List.mem_eraseDups]

theorem nodup_names_ofList (pairs : List (Text × α)) : (ofList pairs).names.Nodup :=
  List.foldlRecOn (motive := fun m : OrderedMap α => m.names.Nodup) pairs _ List.nodup_nil
    fun _ h pair _ => nodup_names_insert h pair.1 pair.2

theorem place_of_not_mem {name : Text} {a : α} {entries : List (Text × α)}
    (h : name ∉ entries.map Prod.fst) : place name a entries = entries ++ [(name, a)] := by
  induction entries with
  | nil => rfl
  | cons e entries ih =>
    rw [List.map_cons, List.mem_cons, not_or] at h
    rw [place, if_neg (Ne.symm h.1), ih h.2, List.cons_append]

theorem place_place (name : Text) (a b : α) (entries : List (Text × α)) :
    place name b (place name a entries) = place name b entries := by
  induction entries with
  | nil => simp [place]
  | cons e entries ih =>
    rw [place]
    split
    · next same => simp [place, same]
    · next other => simp [place, other, ih]

theorem foldl_insert_of_nodup {done pairs : List (Text × α)}
    (h : ((done ++ pairs).map Prod.fst).Nodup) :
    pairs.foldl (fun (m : OrderedMap α) pair => m.insert pair.1 pair.2) ⟨done⟩ =
      ⟨done ++ pairs⟩ := by
  induction pairs generalizing done with
  | nil => simp
  | cons pair pairs ih =>
    have new : pair.1 ∉ done.map Prod.fst := by
      rw [List.map_append, List.nodup_append] at h
      exact fun mem => h.2.2 _ mem _ (by simp) rfl
    have step : (⟨done⟩ : OrderedMap α).insert pair.1 pair.2 = ⟨done ++ [pair]⟩ :=
      congrArg OrderedMap.mk (place_of_not_mem new)
    rw [List.foldl_cons, step, ih (by simpa using h), List.append_assoc]
    rfl

theorem ofList_of_nodup {pairs : List (Text × α)} (h : (pairs.map Prod.fst).Nodup) :
    ofList pairs = ⟨pairs⟩ :=
  foldl_insert_of_nodup h

/-! ## Look-up -/

theorem mem_names_of_get? {m : OrderedMap α} {name : Text} {a : α} (h : m.get? name = some a) :
    name ∈ m.names :=
  (contains_iff m name).1 (Option.isSome_of_mem h)

theorem mem_of_get? {m : OrderedMap α} {name : Text} {a : α} (h : m.get? name = some a) :
    (name, a) ∈ m.entries := by
  unfold get? at h
  generalize m.entries = entries at h ⊢
  induction entries with
  | nil => exact absurd h nofun
  | cons e entries ih =>
    rw [lookup] at h
    split at h
    · next same =>
      obtain rfl := Option.some.inj h
      exact same ▸ List.mem_cons_self
    · exact List.mem_cons_of_mem _ (ih h)

theorem get?_of_mem {m : OrderedMap α} (distinct : m.names.Nodup) {name : Text} {a : α}
    (h : (name, a) ∈ m.entries) : m.get? name = some a := by
  unfold names at distinct
  unfold get?
  generalize m.entries = entries at *
  induction entries with
  | nil => exact absurd h List.not_mem_nil
  | cons e entries ih =>
    rw [List.map_cons, List.nodup_cons] at distinct
    rw [lookup]
    rcases List.mem_cons.1 h with rfl | h
    · rw [if_pos rfl]
    · have other : e.1 ≠ name := fun same => distinct.1 (same ▸ List.mem_map_of_mem h)
      rw [if_neg other, ih distinct.2 h]

theorem get?_map {β : Type} (m : OrderedMap α) (f : α → β) (name : Text) :
    (⟨m.entries.map fun (n, a) => (n, f a)⟩ : OrderedMap β).get? name = (m.get? name).map f := by
  unfold get?
  induction m.entries with
  | nil => rfl
  | cons e entries ih =>
    rw [List.map_cons, lookup, lookup, ih]
    split <;> rfl

/-- Where names are distinct, the entries are what is found under the names, in their order. -/
theorem entries_eq_filterMap {m : OrderedMap α} (distinct : m.names.Nodup) :
    m.entries = m.names.filterMap fun name => (m.get? name).map (name, ·) := by
  unfold names get? at *
  generalize m.entries = entries at *
  induction entries with
  | nil => rfl
  | cons e entries ih =>
    rw [List.map_cons, List.nodup_cons] at distinct
    have here : (lookup e.1 (e :: entries)).map (e.1, ·) = some e := by rw [lookup, if_pos rfl]; rfl
    rw [List.map_cons, List.filterMap_cons, here]
    refine congrArg (e :: ·) ((ih distinct.2).trans (List.filterMap_congr fun name mem => ?_))
    have other : e.1 ≠ name := fun same => distinct.1 (same ▸ mem)
    rw [lookup, if_neg other]

/-! ## Runs of insertions -/

/-- What was last inserted under a name, if anything was. -/
def last? (pairs : List (Text × α)) (name : Text) : Option α :=
  ((pairs.filter (·.1 = name)).getLast?).map Prod.snd

theorem last?_concat (pairs : List (Text × α)) (name other : Text) (a : α) :
    last? (pairs ++ [(name, a)]) other = if name = other then some a else last? pairs other := by
  rw [last?, List.filter_append]
  split
  · next same => simp [same]
  · next differ => simp [differ, last?]

/-- What the readers of a map find into which the pairs were inserted one after another: each name
once, in the order in which the names first came, with what was last inserted under it. -/
structure IsFilledBy (m : OrderedMap α) (pairs : List (Text × α)) : Prop where
  nodup : m.names.Nodup
  names : m.names = (pairs.map Prod.fst).eraseDups
  get? : ∀ name, m.get? name = last? pairs name
  contains : ∀ name, m.contains name = true ↔ name ∈ pairs.map Prod.fst
  size : m.size = (pairs.map Prod.fst).eraseDups.length
  isEmpty : m.isEmpty = true ↔ pairs = []
  entries : m.entries =
    (pairs.map Prod.fst).eraseDups.filterMap fun name => (last? pairs name).map (name, ·)

/-- Names and look-up say what all other readers find. -/
theorem isFilledBy_of_names {m : OrderedMap α} {pairs : List (Text × α)} (nodup : m.names.Nodup)
    (names : m.names = (pairs.map Prod.fst).eraseDups) (get? : ∀ name, m.get? name = last? pairs name) :
    m.IsFilledBy pairs where
  nodup := nodup
  names := names
  get? := get?
  contains name := by rw [contains_iff, names, List.mem_eraseDups]
  size := by rw [← names, OrderedMap.names, List.length_map, OrderedMap.size]
  isEmpty := by
    have none : m.isEmpty = true ↔ m.names = [] := by
      rw [OrderedMap.isEmpty, List.isEmpty_iff, OrderedMap.names, List.map_eq_nil_iff]
    rw [none, names]
    cases pairs <;> simp [List.eraseDups_cons]
  entries := by
    rw [entries_eq_filterMap nodup, names]
    exact List.filterMap_congr fun name _ => by rw [get?]

theorem isFilledBy_empty : (empty : OrderedMap α).IsFilledBy [] :=
  isFilledBy_of_names List.nodup_nil rfl fun _ => rfl

theorem IsFilledBy.insert {m : OrderedMap α} {pairs : List (Text × α)} (h : m.IsFilledBy pairs)
    (name : Text) (a : α) : (m.insert name a).IsFilledBy (pairs ++ [(name, a)]) := by
  refine isFilledBy_of_names (nodup_names_insert h.nodup name a) ?_ fun other => ?_
  · rw [names_insert_of_eq_eraseDups h.names, List.map_append]
    rfl
  · rw [get?_insert, h.get?, last?_concat]

theorem isFilledBy_ofList (pairs : List (Text × α)) : (ofList pairs).IsFilledBy pairs := by
  induction pairs using List.reverseRecOn with
  | nil => exact isFilledBy_empty
  | append_singleton pairs pair ih =>
    rw [ofList, List.foldl_append]
    exact ih.insert pair.1 pair.2

end DocHarvest.OrderedMap
