import DocHarvest.Text.Basic

/-!
# Replacing every occurrence

A `Replacement` recognises something at the front of a text and says what to put in its place.
`Replacement.apply` replaces all occurrences from left to right; what was put in is not read again.
-/

namespace DocHarvest.Text

/-- A replacement for what stands at the front of a text: the new text and what follows the old one,
which is shorter than the text was. -/
structure Replacement where
  find? : Text → Option (Text × Text)
  shortens : ∀ {t new rest : Text}, find? t = some (new, rest) → rest.length < t.length

/-- Replaces every occurrence, from left to right. -/
def Replacement.apply (r : Replacement) : Text → Text
  | [] => []
  | c :: t =>
    match _found : r.find? (c :: t) with
    | some (new, rest) => new ++ r.apply rest
    | none => c :: r.apply t
termination_by t => t.length
decreasing_by
  · exact r.shortens _found
  · simp

theorem length_dropWhile_le (p : Char → Bool) (t : Text) : (t.dropWhile p).length ≤ t.length := by
  induction t with
  | nil => simp
  | cons c t ih =>
    rw [List.dropWhile_cons]
    split
    · simp; omega
    · simp

theorem length_trimStart_le (t : Text) : (trimStart t).length ≤ t.length :=
  length_dropWhile_le isBlank t

theorem length_of_dropLead? {lead t rest : Text} (h : dropLead? lead t = some rest) :
    t.length = lead.length + rest.length := by
  rw [dropLead?_eq_some.1 h, List.length_append]

theorem length_of_splitOnce {sep : Char} {t a b : Text} (h : splitOnce sep t = some (a, b)) :
    t.length = a.length + b.length + 1 := by
  induction t generalizing a b with
  | nil => simp [splitOnce] at h
  | cons c t ih =>
    unfold splitOnce at h
    split at h
    · obtain ⟨rfl, rfl⟩ := Prod.mk.inj (Option.some.inj h)
      simp
    · obtain ⟨⟨a', b'⟩, h', e⟩ := Option.map_eq_some_iff.1 h
      obtain ⟨rfl, rfl⟩ := Prod.mk.inj e
      simp [ih h']
      omega

end DocHarvest.Text
