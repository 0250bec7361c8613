import DocHarvest.Text.Basic

/-!
# Maps that keep their order

Values under distinct names, in the order in which the names first came. Inserting under a known name
replaces the value in its place.

* `get?_insert` : what is found after an insertion
* `names_insert` : the names after an insertion
* `nodup_names_insert` : insertion keeps names distinct
-/

namespace DocHarvest

/-- Values under names, in the order in which the names first came. -/
structure OrderedMap (α : Type) where
  entries : List (Text × α) := []
deriving DecidableEq

namespace OrderedMap

variable {α : Type}

/-- The map without entries. -/
def empty : OrderedMap α := {}

/-- The value under the first entry of that name. -/
def lookup (name : Text) : List (Text × α) → Option α
  | [] => none
  | (n, a) :: entries => if n = name then some a else lookup name entries

def get? (m : OrderedMap α) (name : Text) : Option α := lookup name m.entries

def contains (m : OrderedMap α) (name : Text) : Bool := (m.get? name).isSome

/-- The names, in order. -/
def names (m : OrderedMap α) : List Text := m.entries.map Prod.fst

def size (m : OrderedMap α) : Nat := m.entries.length

/-- Whether there are no entries. -/
def isEmpty (m : OrderedMap α) : Bool := m.entries.isEmpty

/-- The entries with a value replaced in its place, or put at the end under a new name. -/
def place (name : Text) (a : α) : List (Text × α) → List (Text × α)
  | [] => [(name, a)]
  | (n, b) :: entries => if n = name then (n, a) :: entries else (n, b) :: place name a entries

/-- Puts a value under a name. -/
def insert (m : OrderedMap α) (name : Text) (a : α) : OrderedMap α := ⟨place name a m.entries⟩

/-- The pairs inserted one after another. -/
def ofList (pairs : List (Text × α)) : OrderedMap α :=
  pairs.foldl (fun m (name, a) => m.insert name a) empty

theorem lookup_place (name other : Text) (a : α) (entries : List (Text × α)) :
    lookup other (place name a entries) =
      if name = other then some a else lookup other entries := by
  induction entries with
  | nil => simp [place, lookup]
  | cons e entries ih =>
    obtain ⟨n, b⟩ := e
    by_cases h : n = name
    · subst h
      by_cases h' : n = other <;> simp [place, lookup, h']
    · by_cases h' : n = other
      · subst h'
        simp [place, lookup, h, Ne.symm h]
      · simp [place, lookup, h, h', ih]

theorem get?_insert (m : OrderedMap α) (name other : Text) (a : α) :
    (m.insert name a).get? other = if name = other then some a else m.get? other :=
  lookup_place name other a m.entries

theorem lookup_isSome (name : Text) (entries : List (Text × α)) :
    (lookup name entries).isSome = true ↔ name ∈ entries.map Prod.fst := by
  induction entries with
  | nil => simp [lookup]
  | cons e entries ih =>
    obtain ⟨n, b⟩ := e
    by_cases h : n = name
    · simp [lookup, h]
    · simp [lookup, h, ih, Ne.symm h]

theorem contains_iff (m : OrderedMap α) (name : Text) : m.contains name = true ↔ name ∈ m.names :=
  lookup_isSome name m.entries

theorem names_place (name : Text) (a : α) (entries : List (Text × α)) :
    (place name a entries).map Prod.fst =
      if name ∈ entries.map Prod.fst then entries.map Prod.fst
      else entries.map Prod.fst ++ [name] := by
  induction entries with
  | nil => simp [place]
  | cons e entries ih =>
    obtain ⟨n, b⟩ := e
    by_cases h : n = name
    · simp [place, h]
    · simp only [place, h, if_false, List.map_cons, ih, List.mem_cons, Ne.symm h, false_or]
      split <;> simp

theorem names_insert (m : OrderedMap α) (name : Text) (a : α) :
    (m.insert name a).names = if name ∈ m.names then m.names else m.names ++ [name] :=
  names_place name a m.entries

theorem nodup_names_insert {m : OrderedMap α} (h : m.names.Nodup) (name : Text) (a : α) :
    (m.insert name a).names.Nodup := by
  rw [names_insert]
  split
  · exact h
  · next hn => exact List.nodup_append.2 ⟨h, by simp, by
      intro x hx y hy
      obtain rfl := List.mem_singleton.1 hy
      exact fun e => hn (e ▸ hx)⟩

end OrderedMap

/-- The parameters of a signature: names with their declared types. -/
abbrev Parameters := OrderedMap Text

end DocHarvest
