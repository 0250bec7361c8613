import DocHarvest.Proofs.Pipeline.Run

/-!
# Runs that are refused

A run is refused for its settings, or for a language that is not supported: the one that is chosen,
or where none is chosen that of the first entry with such a language (`RunConfig.Misses`). Nothing has
changed then. Once a run is admitted, the languages of all entries that its shards still have to go
through are supported (`Steps.isSupported`), so all that can fail is a file (`eq_io_of_run_eq_error`).
`run_refused` says both.

Settings are refused for bounds that are crossed, though not for all that leave no number between them
(`RunConfig.validate_eq_ok_iff_exists_admits_iff`).
-/

namespace DocHarvest

open RunConfig

variable {grammar : Grammar} {config : RunConfig}

/-! ## Settings and languages -/

/-- Whether no run can succeed with the settings. -/
def RunConfig.IsInvalid (config : RunConfig) : Prop :=
  config.shards = 0 ∨ config.workers = some 0 ∨ config.bounds.greatest ≤ config.bounds.least

/-- A language of this name is needed for a run, and is not supported. -/
inductive RunConfig.Misses (config : RunConfig) (d : Dataset) : Text → Prop
  | chosen {name : Text} (language : config.language = some name)
      (unknown : Language.ofName? name = none) : Misses config d name
  /-- The entry is the first whose language is not supported. -/
  | entry {before after : List SourceUnit} {unit : SourceUnit} (language : config.language = none)
      (entries : d.entries = before ++ unit :: after) (first : AllSupported before)
      (unknown : Language.ofName? unit.language = none) : Misses config d unit.language

theorem RunConfig.not_isInvalid_iff : ¬config.IsInvalid ↔ config.validate = .ok () := by
  rw [validate_eq_ok, IsInvalid, not_or, not_or, Nat.not_le]

/-- There is a number between bounds that have room for one. -/
theorem TokenBounds.exists_admits_iff {bounds : TokenBounds} :
    (∃ count, bounds.admits count = true) ↔ bounds.least + 1 < bounds.greatest := by
  simp only [admits, Bool.and_eq_true, decide_eq_true_eq]
  constructor
  · rintro ⟨count, above, below⟩
    omega
  · exact fun room => ⟨bounds.least + 1, Nat.lt_succ_self _, room⟩

/-- The settings that are accepted have a shard, a worker and a number between their bounds, unless
it is only this number that they lack and the bounds are next to each other. -/
theorem RunConfig.validate_eq_ok_iff_exists_admits_iff (config : RunConfig) :
    (config.validate = .ok () ↔ 1 ≤ config.shards ∧ config.workers ≠ some 0 ∧
      ∃ count, config.bounds.admits count = true) ↔
    config.shards = 0 ∨ config.workers = some 0 ∨
      config.bounds.greatest ≠ config.bounds.least + 1 := by
  rw [validate_eq_ok, TokenBounds.exists_admits_iff]
  by_cases shards : config.shards = 0
  · simp [shards]
  · by_cases workers : config.workers = some 0
    · simp [workers]
    · have pos : 1 ≤ config.shards := Nat.pos_of_ne_zero shards
      simp only [shards, workers, pos, ne_eq, not_false_eq_true, true_and, false_or]
      omega

/-- No number lies between nine and ten. -/
theorem RunConfig.validate_adjacentBounds :
    ({ bounds := ⟨9, 10⟩ } : RunConfig).validate = .ok () ∧
      ¬∃ count, ({ bounds := ⟨9, 10⟩ } : RunConfig).bounds.admits count = true := by
  rw [TokenBounds.exists_admits_iff]
  decide

theorem RunConfig.exists_fault_of_validate {e : RunError} (h : config.validate = .error e) :
    ∃ fault, e = .invalidConfig fault := by
  unfold validate at h
  split at h
  · exact ⟨_, (Except.error.inj h).symm⟩
  · split at h
    · exact ⟨_, (Except.error.inj h).symm⟩
    · split at h
      · exact ⟨_, (Except.error.inj h).symm⟩
      · cases h

theorem Language.resolve_of_unknown {name : Text} (h : ofName? name = none) :
    resolve name = .error (.unsupportedLanguage name) := by
  rw [resolve, h]

/-- Without a language that is missing, all entries that are selected can be gone through. -/
theorem RunConfig.allSupported_of_not_misses {d : Dataset}
    (h : ∀ name, ¬config.Misses d name) :
    (∀ name, config.language = some name → (Language.ofName? name).isSome = true) ∧
      AllSupported (config.selected d) := by
  have chosen : ∀ name, config.language = some name → (Language.ofName? name).isSome = true := by
    intro name language
    rw [Option.isSome_iff_ne_none]
    intro unknown
    exact h name (.chosen language unknown)
  refine ⟨chosen, ?_⟩
  intro unit mem
  cases language : config.language with
  | some name =>
    rw [selected, language] at mem
    rw [of_decide_eq_true (List.mem_filter.1 mem).2]
    exact chosen name language
  | none =>
    rw [selected, language] at mem
    rw [Option.isSome_iff_ne_none]
    intro unknown
    -- then there is a first entry of that kind
    cases first : d.entries.find? fun u => (Language.ofName? u.language).isNone with
    | none =>
      have known := List.find?_eq_none.1 first unit mem
      rw [unknown] at known
      exact known rfl
    | some u =>
      obtain ⟨missing, before, after, split, known⟩ := List.find?_eq_some_iff_append.1 first
      refine h u.language (.entry language split ?_ (Option.isNone_iff_eq_none.1 missing))
      intro b hb
      simpa using known b hb

/-! ## Admission -/

theorem admittedEntries_of_invalid {d : Dataset} {e : RunError} (h : config.validate = .error e) :
    admittedEntries config d = .error e := by
  rw [admittedEntries, h]
  rfl

theorem admittedEntries_of_misses {d : Dataset} {name : Text} (valid : config.validate = .ok ())
    (misses : config.Misses d name) :
    admittedEntries config d = .error (.unsupportedLanguage name) := by
  rw [admittedEntries, valid]
  cases misses with
  | chosen language unknown =>
    rw [language]
    simp only [Dataset.filterLanguage, Language.resolve_of_unknown unknown]
    rfl
  | @entry before after unit language entries first unknown =>
    have lookups : d.entries.forM (fun unit => (Language.resolve unit.language).map fun _ => ()) =
        .error (.unsupportedLanguage unit.language) := by
      have gone := forM_resolve.2 first
      rw [List.forM_eq_forM] at gone ⊢
      rw [entries, List.forM_append, gone, List.forM_cons, Language.resolve_of_unknown unknown]
      rfl
    rw [language]
    change (d.entries.forM _ >>= fun _ => Except.ok d.entries) = _
    rw [lookups]
    rfl

/-! ## Admitted runs -/

theorem runShard_eq_error {s s' : Storage} {index : Nat} {units : List SourceUnit} {e : RunError}
    (supported : AllSupported units)
    (h : runShard grammar config s index units = (.error e, s')) : e = .io := by
  unfold runShard at h
  simp only [shardContent_eq supported] at h
  split at h
  · exact (Except.error.inj (Prod.mk.inj h).1).symm
  · cases (Prod.mk.inj h).1

theorem runShards_eq_error {s s' : Storage} {index : Nat} {parts : List (List SourceUnit)}
    {e : RunError} (supported : ∀ units ∈ parts, AllSupported units)
    (h : runShards grammar config s index parts = (.error e, s')) : e = .io := by
  induction parts generalizing s s' index with
  | nil => cases (Prod.mk.inj h).1
  | cons units parts ih =>
    rcases runShards_cons_eq_error h with first | ⟨summary, s₁, -, others⟩
    · exact runShard_eq_error (supported units List.mem_cons_self) first
    · exact ih (fun us mem => supported us (List.mem_cons_of_mem _ mem)) others

/-- The entries that a shard still has to go through. -/
def ShardState.pending : ShardState → List SourceUnit
  | waiting units => units
  | working w => w.pending
  | done _ => []

/-- The languages of all entries that shards still have to go through are supported. -/
def RunState.IsSupported (r : RunState) : Prop := ∀ shard ∈ r.shards, AllSupported shard.pending

theorem Work.pending_take (w : Work) (unit : SourceUnit) (pending : List SourceUnit)
    (language : Language) : (w.take grammar config unit pending language).pending = pending := by
  unfold take
  dsimp only
  split <;> rfl

theorem RunState.IsSupported.set {r : RunState} (h : r.IsSupported) {i : Nat} {s : Storage}
    {before after : ShardState} (shard : r.shards[i]? = some before)
    (fewer : after.pending ⊆ before.pending) : IsSupported ⟨s, r.shards.set i after⟩ := by
  intro other mem
  rcases List.mem_or_eq_of_mem_set mem with mem | rfl
  · exact h other mem
  · intro unit pending
    exact h before (List.mem_of_getElem? shard) unit (fewer pending)

theorem Step.isSupported {workers : Nat} {a b : RunState} (h : a.IsSupported)
    (step : Step grammar config workers a b) : b.IsSupported := by
  cases step with
  | start shard free write => exact h.set shard (List.Subset.refl _)
  | @entry i w unit pending language shard next known =>
    refine h.set shard ?_
    simp only [ShardState.pending, Work.pending_take, next]
    exact List.subset_cons_self unit pending
  | flush shard pos le read write => exact h.set shard (List.Subset.refl _)
  | finish shard pending buffer => exact h.set shard (List.nil_subset _)

theorem Steps.isSupported {workers : Nat} {a b : RunState} (h : a.IsSupported)
    (steps : Steps grammar config workers a b) : b.IsSupported := by
  induction steps with
  | refl => exact h
  | tail _ step ih => exact step.isSupported ih

theorem RunState.isSupported_initial {entries : List SourceUnit} (s : Storage)
    (h : AllSupported entries) : (RunState.initial config entries s).IsSupported := by
  intro shard mem
  obtain ⟨units, part, rfl⟩ := List.mem_map.1 mem
  exact allSupported_of_mem_parts h part

/-! ## The result of a run -/

theorem run_of_refused {s : Storage} {d : Dataset} {e : RunError}
    (h : admittedEntries config d = .error e) : run grammar config s d = (.error e, s) := by
  rw [run, h]

/-- Only a file can end a run that is admitted. -/
theorem eq_io_of_run_eq_error {s : Storage} {d : Dataset} {e : RunError}
    (admitted : admittedEntries config d = .ok (config.selected d))
    (supported : AllSupported (config.selected d))
    (h : (run grammar config s d).1 = .error e) : e = .io := by
  rw [run, admitted] at h
  rcases made : s.makeDirectories config.outputDir with ⟨s₁, _ | _⟩
  · rw [made] at h
    exact (Except.error.inj h).symm
  · rw [made] at h
    dsimp only at h
    rw [← parts] at h
    rcases shards : runShards grammar config s₁ 0 (config.parts (config.selected d)) with
      ⟨e' | summaries, s₂⟩
    · rw [shards] at h
      obtain rfl := Except.error.inj h
      exact runShards_eq_error (fun units mem => allSupported_of_mem_parts supported mem) shards
    · rw [shards] at h
      cases h

/-- A run is refused for its settings, refused for a language, or admitted. -/
theorem run_cases (grammar : Grammar) (config : RunConfig) (s : Storage) (d : Dataset) :
    (config.IsInvalid ∧ ∃ fault, run grammar config s d = (.error (.invalidConfig fault), s)) ∨
    (¬config.IsInvalid ∧ ∃ name, config.Misses d name ∧
      run grammar config s d = (.error (.unsupportedLanguage name), s)) ∨
    (¬config.IsInvalid ∧ (∀ name, ¬config.Misses d name) ∧ AllSupported (config.selected d) ∧
      ∀ e, (run grammar config s d).1 = .error e → e = .io) := by
  cases valid : config.validate with
  | error e =>
    obtain ⟨fault, rfl⟩ := exists_fault_of_validate valid
    refine .inl ⟨?_, fault, run_of_refused (admittedEntries_of_invalid valid)⟩
    by_contra good
    rw [not_isInvalid_iff, valid] at good
    cases good
  | ok u =>
    have good := not_isInvalid_iff.2 valid
    by_cases missing : ∃ name, config.Misses d name
    · obtain ⟨name, misses⟩ := missing
      exact .inr (.inl ⟨good, name, misses, run_of_refused (admittedEntries_of_misses valid misses)⟩)
    · have none : ∀ name, ¬config.Misses d name := fun name misses => missing ⟨name, misses⟩
      obtain ⟨chosen, supported⟩ := allSupported_of_not_misses none
      have admitted := admittedEntries_eq_ok.2 ⟨valid, chosen, supported, rfl⟩
      exact .inr (.inr ⟨good, none, supported, fun e => eq_io_of_run_eq_error admitted supported⟩)

theorem run_eq_invalidConfig_iff {s : Storage} {d : Dataset} :
    (∃ fault, (run grammar config s d).1 = .error (.invalidConfig fault)) ↔ config.IsInvalid := by
  rcases run_cases grammar config s d with ⟨invalid, fault, eq⟩ | ⟨good, name, -, eq⟩ |
    ⟨good, -, -, failed⟩
  · exact iff_of_true ⟨fault, by rw [eq]⟩ invalid
  · refine iff_of_false ?_ good
    rintro ⟨fault, h⟩
    rw [eq] at h
    cases h
  · refine iff_of_false ?_ good
    rintro ⟨fault, h⟩
    cases failed _ h

theorem run_eq_unsupportedLanguage_iff {s : Storage} {d : Dataset} {name : Text} :
    (run grammar config s d).1 = .error (.unsupportedLanguage name) ↔
      ¬config.IsInvalid ∧ config.Misses d name := by
  constructor
  · intro h
    rcases run_cases grammar config s d with ⟨-, fault, eq⟩ | ⟨good, other, misses, eq⟩ |
      ⟨-, -, -, failed⟩
    · rw [eq] at h
      cases h
    · rw [eq] at h
      obtain rfl := RunError.unsupportedLanguage.inj (Except.error.inj h)
      exact ⟨good, misses⟩
    · cases failed _ h
  · rintro ⟨good, misses⟩
    rw [run_of_refused (admittedEntries_of_misses (not_isInvalid_iff.1 good) misses)]

/-- When a language is missing. -/
theorem RunConfig.exists_misses_iff {d : Dataset} :
    (∃ name, config.Misses d name) ↔
      (∃ name, config.language = some name ∧ Language.ofName? name = none) ∨
      (config.language = none ∧ ∃ unit ∈ d.entries, Language.ofName? unit.language = none) := by
  constructor
  · rintro ⟨name, misses⟩
    cases misses with
    | chosen language unknown => exact .inl ⟨name, language, unknown⟩
    | entry language entries first unknown =>
      refine .inr ⟨language, _, ?_, unknown⟩
      rw [entries]
      exact List.mem_append_right _ List.mem_cons_self
  · intro missing
    by_contra none
    obtain ⟨chosen, supported⟩ := allSupported_of_not_misses fun name misses => none ⟨name, misses⟩
    rcases missing with ⟨name, language, unknown⟩ | ⟨language, unit, mem, unknown⟩
    · have known := chosen name language
      rw [unknown] at known
      cases known
    · rw [selected, language] at supported
      have known := supported unit mem
      rw [unknown] at known
      cases known

/-- A run is refused just for bad settings, and then for a language that is missing, which the error
names; nothing has changed then. Otherwise every look-up in any shard, on any schedule, finds a
language, and all that can fail is a file. -/
theorem run_refused (grammar : Grammar) (config : RunConfig) (s : Storage) (d : Dataset) :
    ((∃ fault, (run grammar config s d).1 = .error (.invalidConfig fault)) ↔ config.IsInvalid) ∧
    (∀ name, ((run grammar config s d).1 = .error (.unsupportedLanguage name) ↔
        ¬config.IsInvalid ∧ config.Misses d name) ∧
      (RunError.unsupportedLanguage name).message? =
        some ("Language ".toList ++ Language.normalize name ++ " not supported".toList)) ∧
    ((∃ name, config.Misses d name) ↔
      (∃ name, config.language = some name ∧ Language.ofName? name = none) ∨
      (config.language = none ∧ ∃ unit ∈ d.entries, Language.ofName? unit.language = none)) ∧
    (config.IsInvalid ∨ (∃ name, config.Misses d name) → (run grammar config s d).2 = s) ∧
    (¬config.IsInvalid → (∀ name, ¬config.Misses d name) →
      (∀ e, (run grammar config s d).1 = .error e → e = .io) ∧
      (∀ units ∈ config.parts (config.selected d), (shardContent grammar config units).2 = none) ∧
      ∀ workers r, Steps grammar config workers
          (.initial config (config.selected d) (s.makeDirectories config.outputDir).1) r →
        ∀ shard ∈ r.shards, ∀ unit ∈ shard.pending,
          ∃ language, Language.resolve unit.language = .ok language) := by
  refine ⟨run_eq_invalidConfig_iff, fun name => ⟨run_eq_unsupportedLanguage_iff, rfl⟩,
    exists_misses_iff, ?_, ?_⟩
  · intro refused
    rcases run_cases grammar config s d with ⟨-, fault, eq⟩ | ⟨-, name, -, eq⟩ |
      ⟨good, none, -, -⟩
    · rw [eq]
    · rw [eq]
    · rcases refused with invalid | ⟨name, misses⟩
      · exact absurd invalid good
      · exact absurd misses (none name)
  · intro good none
    rcases run_cases grammar config s d with ⟨invalid, -⟩ | ⟨-, name, misses, -⟩ |
      ⟨-, -, supported, failed⟩
    · exact absurd invalid good
    · exact absurd misses (none name)
    · refine ⟨failed, ?_, ?_⟩
      · intro units part
        rw [shardContent_eq (allSupported_of_mem_parts supported part)]
      intro workers r steps shard mem unit pending
      have kept := Steps.isSupported (RunState.isSupported_initial _ supported) steps
      obtain ⟨language, known⟩ := Option.isSome_iff_exists.1 (kept shard mem unit pending)
      exact ⟨language, by rw [Language.resolve, known]⟩

/-- A source file in a language that is not supported. -/
def cppUnit : SourceUnit := { padsUnit with language := " C++".toList }

theorem misses_cppUnit : padsConfig.Misses ⟨[padsUnit, cppUnit, padsUnit]⟩ " C++".toList := by
  have entries : [padsUnit, cppUnit, padsUnit] = [padsUnit] ++ cppUnit :: [padsUnit] := rfl
  refine .entry rfl entries ?_ ?_
  · unfold AllSupported
    decide +kernel
  · decide +kernel

/-- A file that can be read stands before one that cannot, and nothing is written. -/
theorem run_refused_cppUnit :
    ∃ e, run (fun _ _ => padsTree) padsConfig ⟨.empty, []⟩ ⟨[padsUnit, cppUnit, padsUnit]⟩ =
        (.error e, ⟨.empty, []⟩) ∧
      e.message? = some "Language cpp not supported".toList := by
  obtain ⟨-, named, -, unchanged, -⟩ := run_refused (fun _ _ => padsTree) padsConfig ⟨.empty, []⟩
    ⟨[padsUnit, cppUnit, padsUnit]⟩
  obtain ⟨refused, message⟩ := named " C++".toList
  refine ⟨.unsupportedLanguage " C++".toList, Prod.ext ?_ ?_, ?_⟩
  · exact refused.2 ⟨not_isInvalid_iff.2 rfl, misses_cppUnit⟩
  · exact unchanged (.inr ⟨_, misses_cppUnit⟩)
  · rw [message]
    decide +kernel

end DocHarvest
