import DocHarvest.Proofs.Pipeline.Outcome
import DocHarvest.Proofs.Traversal

/-!
# Single shards

`admittedEntries_eq_ok` : when a run can be done, and the entries that it goes through.
`runShard_eq` : a shard writes the lines of its entries to its file and counts them.
`target?_of_runShards_eq_ok` : shards that were all run had a place for each of their files.
-/

namespace DocHarvest

open Text RunConfig

variable {grammar : Grammar} {config : RunConfig}

/-! ## Entries -/

/-- Whether all entries are in supported languages. -/
def AllSupported (units : List SourceUnit) : Prop :=
  ∀ unit ∈ units, (Language.ofName? unit.language).isSome = true

theorem shardContent_eq {units : List SourceUnit} (supported : AllSupported units) :
    shardContent grammar config units =
      (⟨units.flatMap (config.recordsOf grammar), config.skipCount grammar units⟩, none) := by
  induction units with
  | nil => rfl
  | cons unit units ih =>
    have rest := ih fun u hu => supported u (List.mem_cons_of_mem _ hu)
    obtain ⟨language, known⟩ := Option.isSome_iff_exists.1 (supported unit List.mem_cons_self)
    have same : config.process grammar unit = language.rules.records config.extractOptions
        config.bounds (grammar language unit.code) unit := by
      rw [process, known]
    unfold shardContent
    simp only [Language.resolve, known, rest, ← same]
    cases h : config.process grammar unit with
    | ok records => simp [recordsOf, skipCount, isSkipped, h]
    | error reason => simp [recordsOf, skipCount, isSkipped, h]

theorem forM_resolve {units : List SourceUnit} :
    (units.forM fun unit => (Language.resolve unit.language).map fun _ => ()) = .ok () ↔
      AllSupported units := by
  rw [forM_eq_ok]
  refine forall_congr' fun unit => imp_congr_right fun _ => ?_
  unfold Language.resolve
  cases Language.ofName? unit.language with
  | none => exact ⟨nofun, nofun⟩
  | some language => exact ⟨fun _ => rfl, fun _ => rfl⟩

/-- When a run can be done, and the entries that it goes through. -/
theorem admittedEntries_eq_ok {d : Dataset} {entries : List SourceUnit} :
    admittedEntries config d = .ok entries ↔
      config.validate = .ok () ∧
      (∀ name, config.language = some name → (Language.ofName? name).isSome = true) ∧
      AllSupported (config.selected d) ∧ entries = config.selected d := by
  -- what is left once the language is chosen
  have rest : ∀ units : List SourceUnit,
      ((units.forM fun unit => (Language.resolve unit.language).map fun _ => ()) >>=
        fun _ => Except.ok units) = Except.ok entries ↔ AllSupported units ∧ entries = units := by
    intro units
    rw [← forM_resolve]
    cases units.forM fun unit => (Language.resolve unit.language).map fun _ => () with
    | error e => exact ⟨nofun, fun h => absurd h.1 nofun⟩
    | ok u => exact ⟨fun h => ⟨rfl, (Except.ok.inj h).symm⟩, fun h => congrArg _ h.2.symm⟩
  unfold admittedEntries
  cases config.validate with
  | error e => exact ⟨nofun, fun h => absurd h.1 nofun⟩
  | ok u =>
    unfold selected
    cases config.language with
    | none => exact (rest d.entries).trans ⟨fun h => ⟨rfl, nofun, h⟩, fun h => h.2.2⟩
    | some name =>
      simp only [Option.some.injEq, forall_eq']
      cases hn : Language.ofName? name with
      | none =>
        simp only [Dataset.filterLanguage, Language.resolve, hn]
        exact ⟨nofun, fun h => absurd h.2.1 nofun⟩
      | some language =>
        simp only [Dataset.filterLanguage, Language.resolve, hn]
        exact (rest _).trans ⟨fun h => ⟨trivial, rfl, h⟩, fun h => h.2.2⟩

/-! ## Shards -/

theorem runShard_eq (grammar : Grammar) {s : Storage} {index : Nat} {units : List SourceUnit}
    {place : List Text}
    (target : s.target? (shardPath config.outputDir index) = some place)
    (supported : AllSupported units) :
    runShard grammar config s index units =
      (.ok (config.summaryOf grammar index units),
        s.write place (config.linesOf grammar units)) := by
  unfold runShard
  simp only [shardContent_eq supported, Storage.writeJsonLines?, Storage.writeFile?_eq, target,
    Option.map_some, ← linesOf_eq]
  rfl

theorem exists_write_of_runShard_eq_ok {s s' : Storage} {index : Nat} {units : List SourceUnit}
    {summary : ShardSummary} (h : runShard grammar config s index units = (.ok summary, s')) :
    ∃ place content, s.target? (shardPath config.outputDir index) = some place ∧
      s' = s.write place content := by
  unfold runShard at h
  simp only [Storage.writeJsonLines?, Storage.writeFile?_eq] at h
  cases hp : s.target? (shardPath config.outputDir index) with
  | none =>
    rw [hp] at h
    cases (Prod.mk.inj h).1
  | some place =>
    rw [hp, Option.map_some] at h
    simp only at h
    split at h
    · cases (Prod.mk.inj h).1
    · exact ⟨place, _, rfl, (Prod.mk.inj h).2.symm⟩

/-- Where shards ran to the end, the first did and then the others. -/
theorem exists_of_runShards_cons_eq_ok {s s' : Storage} {index : Nat} {units : List SourceUnit}
    {parts : List (List SourceUnit)} {summaries : List ShardSummary}
    (h : runShards grammar config s index (units :: parts) = (.ok summaries, s')) :
    ∃ summary s₁ rest, runShard grammar config s index units = (.ok summary, s₁) ∧
      runShards grammar config s₁ (index + 1) parts = (.ok rest, s') := by
  rw [runShards] at h
  rcases first : runShard grammar config s index units with ⟨e | summary, s₁⟩
  · rw [first] at h
    cases (Prod.mk.inj h).1
  · rw [first] at h
    rcases others : runShards grammar config s₁ (index + 1) parts with ⟨e | rest, s₂⟩
    · simp only [others] at h
      cases (Prod.mk.inj h).1
    · simp only [others] at h
      obtain ⟨-, rfl⟩ := Prod.mk.inj h
      exact ⟨summary, s₁, rest, rfl, others⟩

/-- Where shards failed, the first did, or the others behind it. -/
theorem runShards_cons_eq_error {s s' : Storage} {index : Nat} {units : List SourceUnit}
    {parts : List (List SourceUnit)} {e : RunError}
    (h : runShards grammar config s index (units :: parts) = (.error e, s')) :
    runShard grammar config s index units = (.error e, s') ∨
      ∃ summary s₁, runShard grammar config s index units = (.ok summary, s₁) ∧
        runShards grammar config s₁ (index + 1) parts = (.error e, s') := by
  rw [runShards] at h
  rcases first : runShard grammar config s index units with ⟨e' | summary, s₁⟩
  · rw [first] at h
    obtain ⟨same, rfl⟩ := Prod.mk.inj h
    obtain rfl := Except.error.inj same
    exact .inl rfl
  · rw [first] at h
    rcases others : runShards grammar config s₁ (index + 1) parts with ⟨e' | rest, s₂⟩
    · simp only [others] at h
      obtain ⟨same, rfl⟩ := Prod.mk.inj h
      obtain rfl := Except.error.inj same
      exact .inr ⟨summary, s₁, rfl, others⟩
    · simp only [others] at h
      cases (Prod.mk.inj h).1

/-- Where shards ran to the end, each could write its file from the start. -/
theorem target?_of_runShards_eq_ok {s s' : Storage} {index : Nat} {parts : List (List SourceUnit)}
    {summaries : List ShardSummary}
    (h : runShards grammar config s index parts = (.ok summaries, s')) :
    ∀ i, index ≤ i → i < index + parts.length →
      (s.target? (shardPath config.outputDir i)).isSome = true := by
  induction parts generalizing s s' index summaries with
  | nil => exact fun i hi hlt => absurd hlt (by simp; omega)
  | cons units parts ih =>
    intro i hi hlt
    obtain ⟨summary, s₁, rest, first, others⟩ := exists_of_runShards_cons_eq_ok h
    obtain ⟨place, content, hp, rfl⟩ := exists_write_of_runShard_eq_ok first
    rcases Nat.eq_or_lt_of_le hi with rfl | lt
    · rw [hp]
      rfl
    · rw [← Storage.target?_write hp content]
      exact ih others i lt (by rw [List.length_cons] at hlt; omega)

end DocHarvest
