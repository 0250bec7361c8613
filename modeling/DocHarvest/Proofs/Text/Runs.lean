import DocHarvest.Text.Basic
import Mathlib.Data.List.TakeWhile

/-!
# Longest pieces of one class of characters

`IsRunIn p run t` : `run` is a longest piece of `t` whose characters all pass `p`. A character that
does not pass parts the runs before it from those behind it (`isRunIn_append_cons`), and a text is
taken apart at such characters by `cut_induction`.
-/

namespace DocHarvest.Text

variable {p : Char → Bool} {a b t run : Text} {c : Char}

/-- A piece of one class is taken up to the first element outside it. -/
theorem takeWhile_append_of_stop {α : Type} {p : α → Bool} {a b : List α}
    (all : ∀ x ∈ a, p x = true) (stop : ∀ x ∈ b.head?, p x = false) :
    (a ++ b).takeWhile p = a ∧ (a ++ b).dropWhile p = b := by
  rw [List.takeWhile_append_of_pos all, List.dropWhile_append_of_pos all]
  cases b with
  | nil => simp
  | cons x b => simp [stop x rfl]

/-- Between `before` and `behind` stands a piece with `p` that cannot be made longer. -/
structure IsLongest (p : Char → Bool) (before run behind : Text) : Prop where
  ne : run ≠ []
  all : ∀ c ∈ run, p c = true
  starts : ∀ c ∈ before.getLast?, p c = false
  ends : ∀ c ∈ behind.head?, p c = false

instance (p : Char → Bool) (before run behind : Text) : Decidable (IsLongest p before run behind) :=
  decidable_of_iff (run ≠ [] ∧ run.all p = true ∧ before.getLast?.all (!p ·) = true ∧
      behind.head?.all (!p ·) = true) (by
    simp only [Option.all_eq_true, List.all_eq_true, Bool.not_eq_true']
    exact ⟨fun h => ⟨h.1, h.2.1, h.2.2.1, h.2.2.2⟩, fun h => ⟨h.ne, h.all, h.starts, h.ends⟩⟩)

/-- A longest piece of the text whose characters all pass `p`. -/
def IsRunIn (p : Char → Bool) (run t : Text) : Prop :=
  ∃ before behind, t = before ++ run ++ behind ∧ IsLongest p before run behind

/-- Every text is of one class, or is parted by its first character outside the class. -/
theorem cut_induction (p : Char → Bool) {motive : Text → Prop}
    (all : ∀ a, (∀ c ∈ a, p c = true) → motive a)
    (cut : ∀ a c b, (∀ c ∈ a, p c = true) → p c = false → motive b → motive (a ++ c :: b))
    (t : Text) : motive t := by
  suffices h : ∀ a, (∀ c ∈ a, p c = true) → motive (a ++ t) from h [] nofun
  induction t with
  | nil => exact fun a ha => by rw [List.append_nil]; exact all a ha
  | cons c t ih =>
    intro a ha
    by_cases hc : p c = true
    · rw [List.append_cons]
      refine ih (a ++ [c]) fun x hx => ?_
      rcases List.mem_append.1 hx with hx | hx
      · exact ha x hx
      · rw [List.mem_singleton.1 hx]
        exact hc
    · exact cut a c t ha (Bool.eq_false_iff.2 hc) (ih [] nofun)

/-- No piece right before a run is of its class. -/
theorem IsLongest.before_eq_nil {x : Text} (h : IsLongest p (a ++ x) run b)
    (all : ∀ c ∈ x, p c = true) : x = [] := by
  cases e : x.getLast? with
  | none => exact List.getLast?_eq_none_iff.1 e
  | some c =>
    have last := h.starts c (by rw [List.getLast?_append, e]; rfl)
    exact absurd (all c (List.mem_of_getLast? e)) (by simp [last])

/-- No piece right behind a run is of its class. -/
theorem IsLongest.behind_eq_nil {y : Text} (h : IsLongest p a run (y ++ b))
    (all : ∀ c ∈ y, p c = true) : y = [] := by
  cases y with
  | nil => rfl
  | cons c y => exact absurd (all c List.mem_cons_self) (by simp [h.ends c rfl])

/-- In a text of one class the only run is the text. -/
theorem isRunIn_of_all (h : ∀ c ∈ t, p c = true) : IsRunIn p run t ↔ run = t ∧ t ≠ [] := by
  constructor
  · rintro ⟨before, behind, rfl, longest⟩
    rw [← List.nil_append before, ← List.append_nil behind] at longest
    obtain rfl : before = [] := longest.before_eq_nil fun c hc => h c (by simp [hc])
    obtain rfl : behind = [] := longest.behind_eq_nil fun c hc => h c (by simp [hc])
    simpa using longest.ne
  · rintro ⟨rfl, ne⟩
    exact ⟨[], [], by simp, ne, h, nofun, nofun⟩

/-- A character outside the class parts the runs before it from those behind it. -/
theorem isRunIn_append_cons (hc : p c = false) :
    IsRunIn p run (a ++ c :: b) ↔ IsRunIn p run a ∨ IsRunIn p run b := by
  constructor
  · rintro ⟨before, behind, e, longest⟩
    have outside : c ∉ run := fun mem => by simp [longest.all c mem] at hc
    rw [List.append_assoc] at e
    rcases List.append_eq_append_iff.1 e with ⟨m, rfl, parts⟩ | ⟨m, rfl, parts⟩
    · -- the run begins behind `a`
      cases m with
      | nil =>
        obtain ⟨d, run, rfl⟩ := List.exists_cons_of_ne_nil longest.ne
        obtain ⟨rfl, -⟩ := List.cons.inj parts
        exact absurd List.mem_cons_self outside
      | cons d m =>
        obtain ⟨-, rfl⟩ := List.cons.inj parts
        refine .inr ⟨m, behind, by simp, longest.ne, longest.all, fun x hx => ?_, longest.ends⟩
        refine longest.starts x ?_
        rw [Option.mem_def] at hx ⊢
        rw [List.getLast?_append, List.getLast?_cons, hx]
        rfl
    · rcases List.append_eq_append_iff.1 parts with ⟨m', rfl, rfl⟩ | ⟨m', rfl, rest⟩
      · -- the run ends before `c`
        refine .inl ⟨before, m', by simp, longest.ne, longest.all, longest.starts, fun x hx => ?_⟩
        refine longest.ends x ?_
        rw [Option.mem_def] at hx ⊢
        rw [List.head?_append, hx]
        rfl
      · cases m' with
        | nil =>
          exact .inl ⟨before, [], by simp, longest.ne, longest.all, longest.starts, nofun⟩
        | cons d m' =>
          obtain ⟨rfl, -⟩ := List.cons.inj rest
          exact absurd (by simp) outside
  · rintro (⟨before, behind, rfl, longest⟩ | ⟨before, behind, rfl, longest⟩)
    · refine ⟨before, behind ++ c :: b, by simp, longest.ne, longest.all, longest.starts, ?_⟩
      cases behind with
      | nil => exact fun x hx => Option.some.inj hx ▸ hc
      | cons d behind => exact longest.ends
    · refine ⟨a ++ c :: before, behind, by simp, longest.ne, longest.all, ?_, longest.ends⟩
      rcases List.eq_nil_or_concat before with rfl | ⟨before, d, rfl⟩
      · simpa using hc
      · intro x hx
        rw [List.concat_eq_append] at hx longest
        rw [← List.cons_append, ← List.append_assoc, List.getLast?_concat] at hx
        exact longest.starts x (by rwa [List.getLast?_concat])

theorem eq_false_of_mem_head?_dropWhile (h : c ∈ (t.dropWhile p).head?) : p c = false := by
  have := List.head?_dropWhile_not p t
  rwa [Option.mem_def.1 h] at this

/-- What is dropped off a text ends before a character outside the class. -/
theorem dropWhile_append_append (ne : run ≠ []) (head : ∀ c ∈ run.head?, p c = false) :
    (a ++ run ++ b).dropWhile p = a.dropWhile p ++ run ++ b := by
  obtain ⟨c, rest, rfl⟩ := List.exists_cons_of_ne_nil ne
  rw [List.append_assoc, List.dropWhile_append]
  split
  · next inside => simp [List.isEmpty_iff.1 inside, head c rfl]
  · rw [List.append_assoc]

/-- A piece of one class lies in a run, which goes on as far as the class does. -/
theorem exists_isLongest (ne : run ≠ []) (all : ∀ c ∈ run, p c = true) (before behind : Text) :
    ∃ before' x y behind', before = before' ++ x ∧ behind = y ++ behind' ∧
      IsLongest p before' (x ++ run ++ y) behind' := by
  refine ⟨(before.reverse.dropWhile p).reverse, (before.reverse.takeWhile p).reverse,
    behind.takeWhile p, behind.dropWhile p, ?_, List.takeWhile_append_dropWhile.symm, by simp [ne],
    ?_, ?_, fun c hc => eq_false_of_mem_head?_dropWhile hc⟩
  · rw [← List.reverse_append, List.takeWhile_append_dropWhile, List.reverse_reverse]
  · simp only [List.mem_append, List.mem_reverse]
    rintro c ((hc | hc) | hc)
    exacts [List.mem_takeWhile_imp hc, all c hc, List.mem_takeWhile_imp hc]
  · rw [List.getLast?_reverse]
    exact fun c hc => eq_false_of_mem_head?_dropWhile hc

end DocHarvest.Text
