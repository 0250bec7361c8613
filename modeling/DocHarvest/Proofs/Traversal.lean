import Mathlib.Data.List.Forall2

/-!
# Going through a list until something fails

What `mapM` and `forM` give when each element may fail: all results in order if nothing fails
(`mapM_eq_ok_iff`), and otherwise the failure of the first element that does (`mapM_eq_error_iff`).
What is made of the results makes no failure and takes none away (`map_eq_error_iff`).
-/

namespace DocHarvest

variable {α β γ ε : Type} {f : α → Except ε β} {as : List α} {bs : List β} {e : ε}

theorem map_eq_ok_iff {g : β → γ} {result : Except ε β} {c : γ} :
    result.map g = .ok c ↔ ∃ b, result = .ok b ∧ g b = c := by
  cases result <;> simp [Except.map]

theorem exists_map_eq_ok_iff {g : β → γ} {result : Except ε β} :
    (∃ c, result.map g = .ok c) ↔ ∃ b, result = .ok b := by
  cases result <;> simp [Except.map]

theorem map_eq_error_iff {g : β → γ} {result : Except ε β} :
    result.map g = .error e ↔ result = .error e := by
  cases result <;> simp [Except.map]

theorem mapM_cons_eq (f : α → Except ε β) (a : α) (as : List α) :
    (a :: as).mapM f =
      match f a with
      | .error e => .error e
      | .ok b => (as.mapM f).map (b :: ·) := by
  rw [List.mapM_cons]
  cases f a with
  | error e => rfl
  | ok b => cases as.mapM f <;> rfl

theorem mapM_eq_ok_iff : as.mapM f = .ok bs ↔ List.Forall₂ (fun a b => f a = .ok b) as bs := by
  induction as generalizing bs with
  | nil =>
    rw [List.forall₂_nil_left_iff]
    exact ⟨fun h => (Except.ok.inj h).symm, fun h => h ▸ rfl⟩
  | cons a as ih =>
    rw [mapM_cons_eq, List.forall₂_cons_left_iff]
    simp only [← ih]
    cases f a with
    | error e => simp
    | ok b =>
      rw [map_eq_ok_iff]
      simp [eq_comm]

/-- Nothing behind the first failure counts. -/
theorem mapM_eq_error_iff : as.mapM f = .error e ↔ ∃ before a after, as = before ++ a :: after ∧
    (∀ x ∈ before, ∃ b, f x = .ok b) ∧ f a = .error e := by
  induction as with
  | nil =>
    refine iff_of_false nofun ?_
    rintro ⟨before, a, after, split, -⟩
    exact absurd split (by simp)
  | cons a as ih =>
    rw [mapM_cons_eq]
    cases ha : f a with
    | error e' =>
      constructor
      · intro h
        exact ⟨[], a, as, rfl, nofun, ha.trans (congrArg _ (Except.error.inj h))⟩
      · rintro ⟨before, x, after, split, fine, hx⟩
        rcases List.cons_eq_append_iff.1 split with ⟨rfl, same⟩ | ⟨rest, rfl, -⟩
        · obtain ⟨rfl, -⟩ := List.cons.inj same
          exact congrArg Except.error (Except.error.inj (ha.symm.trans hx))
        · obtain ⟨b, ok⟩ := fine a List.mem_cons_self
          rw [ha] at ok
          cases ok
    | ok b =>
      rw [map_eq_error_iff, ih]
      constructor
      · rintro ⟨before, x, after, rfl, fine, hx⟩
        exact ⟨a :: before, x, after, rfl, List.forall_mem_cons.2 ⟨⟨b, ha⟩, fine⟩, hx⟩
      · rintro ⟨before, x, after, split, fine, hx⟩
        rcases List.cons_eq_append_iff.1 split with ⟨rfl, same⟩ | ⟨rest, rfl, rfl⟩
        · obtain ⟨rfl, -⟩ := List.cons.inj same
          rw [ha] at hx
          cases hx
        · exact ⟨rest, x, after, rfl, (List.forall_mem_cons.1 fine).2, hx⟩

theorem exists_mapM_eq_ok_iff : (∃ bs, as.mapM f = .ok bs) ↔ ∀ a ∈ as, ∃ b, f a = .ok b := by
  constructor
  · rintro ⟨bs, h⟩ a ha
    obtain ⟨i, hi, rfl⟩ := List.getElem_of_mem ha
    have all := mapM_eq_ok_iff.1 h
    exact ⟨_, all.get hi (all.length_eq ▸ hi)⟩
  · intro h
    cases result : as.mapM f with
    | ok bs => exact ⟨bs, rfl⟩
    | error e =>
      obtain ⟨before, a, after, rfl, -, ha⟩ := mapM_eq_error_iff.1 result
      obtain ⟨b, hb⟩ := h a (List.mem_append_right _ List.mem_cons_self)
      rw [ha] at hb
      cases hb

theorem exists_mapM_eq_error_iff :
    (∃ e, as.mapM f = .error e) ↔ ∃ a ∈ as, ∃ e, f a = .error e := by
  constructor
  · rintro ⟨e, h⟩
    obtain ⟨before, a, after, rfl, -, ha⟩ := mapM_eq_error_iff.1 h
    exact ⟨a, List.mem_append_right _ List.mem_cons_self, e, ha⟩
  · rintro ⟨a, mem, e, ha⟩
    cases result : as.mapM f with
    | error e => exact ⟨e, rfl⟩
    | ok bs =>
      obtain ⟨b, hb⟩ := exists_mapM_eq_ok_iff.1 ⟨bs, result⟩ a mem
      rw [ha] at hb
      cases hb

theorem exists_of_mem_mapM (h : as.mapM f = .ok bs) {b : β} (hb : b ∈ bs) :
    ∃ a ∈ as, f a = .ok b := by
  obtain ⟨i, hi, rfl⟩ := List.getElem_of_mem hb
  have all := mapM_eq_ok_iff.1 h
  have hi' : i < as.length := all.length_eq ▸ hi
  exact ⟨as[i], List.getElem_mem hi', all.get hi' hi⟩

/-- Elements that give nothing can be left out. -/
theorem map_flatten_mapM {δ : Type} {read : α → Except ε (List δ)} {select : α → Option γ}
    {parts : β → List δ} {f : γ → Except ε β}
    (h : ∀ a ∈ as, read a = (select a).elim (.ok []) fun c => (f c).map parts) :
    (as.mapM read).map List.flatten = ((as.filterMap select).mapM f).map (List.flatMap parts) := by
  induction as with
  | nil => rfl
  | cons a as ih =>
    obtain ⟨first, rest⟩ := List.forall_mem_cons.1 h
    have ih := ih rest
    rw [mapM_cons_eq, first, List.filterMap_cons]
    cases select a with
    | none =>
      refine Eq.trans ?_ ih
      cases as.mapM read <;> rfl
    | some c =>
      dsimp only [Option.elim_some]
      rw [mapM_cons_eq]
      cases f c with
      | error e => rfl
      | ok b =>
        have front := congrArg (Except.map (parts b ++ ·)) ih
        change ((as.mapM read).map (parts b :: ·)).map List.flatten =
          (((as.filterMap select).mapM f).map (b :: ·)).map (List.flatMap parts)
        generalize as.mapM read = read at front ⊢
        generalize (as.filterMap select).mapM f = found at front ⊢
        cases read <;> cases found <;> exact front

/-- Pieces that are all read as what they were written for are read one after another. -/
theorem mapM_map_eq_ok {read : β → Except ε γ} {write : α → β} {result : α → γ}
    (h : ∀ a ∈ as, read (write a) = .ok (result a)) :
    (as.map write).mapM read = .ok (as.map result) := by
  rw [mapM_eq_ok_iff, List.forall₂_map_left_iff, List.forall₂_map_right_iff, List.forall₂_same]
  exact h

theorem forM_eq_ok {f : α → Except ε Unit} : as.forM f = .ok () ↔ ∀ a ∈ as, f a = .ok () := by
  induction as with
  | nil => exact ⟨fun _ _ h => absurd h List.not_mem_nil, fun _ => rfl⟩
  | cons a as ih =>
    rw [List.forM, List.forall_mem_cons, ← ih]
    cases f a with
    | error e => exact ⟨nofun, fun h => absurd h.1 nofun⟩
    | ok u => exact ⟨fun h => ⟨rfl, h⟩, fun h => h.2⟩

/-- Elements none of which fails, where there is nothing to say about failures. -/
theorem mapM_eq_some_map {f : α → Option β} {g : α → β} (h : ∀ a ∈ as, f a = some (g a)) :
    as.mapM f = some (as.map g) := by
  induction as with
  | nil => rfl
  | cons a as ih =>
    rw [List.mapM_cons, h a List.mem_cons_self, ih fun b hb => h b (List.mem_cons_of_mem a hb)]
    rfl

/-- What was written is read back one by one. -/
theorem mapM_map_eq_some {read : β → Option α} {write : α → β}
    (h : ∀ a ∈ as, read (write a) = some a) : (as.map write).mapM read = some as := by
  have each := mapM_eq_some_map (f := read ∘ write) (g := id) h
  rwa [List.map_id, ← List.mapM_map] at each

end DocHarvest
