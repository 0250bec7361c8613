import DocHarvest.Doc.Section
import DocHarvest.Proofs.Doc.Indent

/-!
# Entries of sections

Deeper lines behind a line at the base indentation belong to its entry (`entryLines_append`). So a
section of entries that all begin at one depth falls apart into these (`entriesOf_flatMap`).
-/

namespace DocHarvest.Doc

open Text

/-- A line, and deeper lines behind it up to one that is not, are one entry. -/
theorem entryLines_append {base : Nat} {l : Text} {more rest : List Text}
    (deeper : ∀ l ∈ more, base < depth l) (next : ∀ l ∈ rest.head?, depth l ≤ base) :
    entryLines base (l :: (more ++ rest)) = (trim l :: more.map trim) :: entryLines base rest := by
  induction more generalizing l with
  | nil =>
    have stops : rest.head?.any (base < depth ·) = false := by
      simpa [Option.any_eq_false] using next
    rw [List.nil_append, entryLines]
    cases entryLines base rest with
    | nil => rfl
    | cons entry entries => simp [stops]
  | cons m more ih =>
    have goesOn : base < depth m := deeper m List.mem_cons_self
    rw [List.cons_append, entryLines, ih fun l hl => deeper l (List.mem_cons_of_mem _ hl)]
    simp [goesOn]

section
variable {α : Type} {base : Nat} {first : α → Text} {more : α → List Text} {as : List α}

theorem entryLines_flatMap (flush : ∀ a ∈ as, depth (first a) = base)
    (deeper : ∀ a ∈ as, ∀ l ∈ more a, base < depth l) :
    entryLines base (as.flatMap fun a => first a :: more a) =
      as.map fun a => trim (first a) :: (more a).map trim := by
  induction as with
  | nil => rfl
  | cons a as ih =>
    have next : ∀ l ∈ (as.flatMap fun a => first a :: more a).head?, depth l ≤ base := by
      intro l hl
      cases as with
      | nil => exact absurd hl nofun
      | cons b as =>
        obtain rfl := Option.some.inj hl
        exact Nat.le_of_eq (flush b (by simp))
    rw [List.flatMap_cons, List.cons_append, entryLines_append (deeper a List.mem_cons_self) next,
      ih (fun b hb => flush b (List.mem_cons_of_mem _ hb))
        fun b hb => deeper b (List.mem_cons_of_mem _ hb)]
    rfl

/-- A section of entries that begin at one depth, with deeper lines behind the first of each. -/
theorem entriesOf_flatMap (flush : ∀ a ∈ as, depth (first a) = base)
    (deeper : ∀ a ∈ as, ∀ l ∈ more a, base < depth l)
    (full : ∀ a ∈ as, ∀ l ∈ first a :: more a, isBlankText l = false) :
    entriesOf (as.flatMap fun a => first a :: more a) =
      as.map fun a => joinLines (trim (first a) :: (more a).map trim) := by
  have all : ∀ l ∈ as.flatMap fun a => first a :: more a, isBlankText l = false := by
    intro l hl
    obtain ⟨a, ha, hl⟩ := List.mem_flatMap.1 hl
    exact full a ha l hl
  have keep : (as.flatMap fun a => first a :: more a).filter (!isBlankText ·) =
      as.flatMap fun a => first a :: more a :=
    List.filter_eq_self.2 fun l hl => by simp [all l hl]
  cases as with
  | nil => rfl
  | cons a as =>
    have least : commonDepth ((a :: as).flatMap fun a => first a :: more a) = depth (first a) := by
      refine commonDepth_eq_depth (by simp) (full a List.mem_cons_self _ List.mem_cons_self) ?_
      intro l hl _
      obtain ⟨b, hb, hl⟩ := List.mem_flatMap.1 hl
      rw [flush a List.mem_cons_self]
      rcases List.mem_cons.1 hl with rfl | hl
      · exact Nat.le_of_eq (flush b hb).symm
      · exact Nat.le_of_lt (deeper b hb l hl)
    rw [entriesOf, least, flush a List.mem_cons_self, keep, entryLines_flatMap flush deeper,
      List.map_map]
    rfl

end

end DocHarvest.Doc
