import DocHarvest.Proofs.Language.Records
import DocHarvest.Proofs.Pipeline.Sequence

/-!
# Runs

`isOf_of_run_eq_ok` : what a run that comes to its end leaves behind.
`run_isOf_on_every_schedule` : where every file can be written, a run comes to its end, one shard
after another or side by side in any order, and leaves the same behind for any number of shards and
workers.
-/

namespace DocHarvest

open Text RunConfig

variable {grammar : Grammar} {config : RunConfig}

theorem RunConfig.shards_pos (h : config.validate = .ok ()) : 0 < config.shards :=
  Nat.pos_of_ne_zero (validate_eq_ok.1 h).1

theorem RunConfig.allSupported_of_mem_parts {entries : List SourceUnit}
    (h : AllSupported entries) {units : List SourceUnit} (mem : units ∈ config.parts entries) :
    AllSupported units := by
  obtain ⟨range, -, rfl⟩ := List.mem_map.1 mem
  exact fun unit hu => h unit (List.mem_of_mem_drop (List.mem_of_mem_take hu))

/-- A run that comes to its end is admitted, finds its directory, and runs all shards. -/
theorem run_eq_ok {s s' : Storage} {d : Dataset} {summary : RunSummary} :
    run grammar config s d = (.ok summary, s') ↔
      admittedEntries config d = .ok (config.selected d) ∧
      (s.makeDirectories config.outputDir).2 = true ∧
      runShards grammar config (s.makeDirectories config.outputDir).1 0
        (config.parts (config.selected d)) = (.ok summary.shards, s') := by
  unfold run
  cases admitted : admittedEntries config d with
  | error e => simp
  | ok entries =>
    obtain ⟨-, -, -, rfl⟩ := admittedEntries_eq_ok.1 admitted
    rcases s.makeDirectories config.outputDir with ⟨s₁, _ | _⟩
    · simp
    · simp only [true_and]
      rw [← parts]
      rcases runShards grammar config s₁ 0 (config.parts (config.selected d)) with
        ⟨e | summaries, s₂⟩
      · simp [Except.map]
      · cases summary
        simp [Except.map]

theorem RunSummary.isOf_of_steps {entries : List SourceUnit} {s s' : Storage} {workers : Nat}
    {summary : RunSummary} (pos : 0 < config.shards)
    (targets : ∀ i < (config.parts entries).length,
      (s.target? (shardPath config.outputDir i)).isSome = true)
    (steps : Steps grammar config workers (.initial config entries s)
      ⟨s', summary.shards.map .done⟩) :
    summary.IsOf grammar config entries s' :=
  (Steps.keeps (RunState.keeps_initial grammar targets) steps).isOf pos

theorem RunSummary.isOf_of_run_eq_ok {s s' : Storage} {d : Dataset} {summary : RunSummary}
    (h : run grammar config s d = (.ok summary, s')) :
    summary.IsOf grammar config (config.selected d) s' := by
  obtain ⟨admitted, -, shards⟩ := run_eq_ok.1 h
  obtain ⟨valid, -, supported, -⟩ := admittedEntries_eq_ok.1 admitted
  have targets := target?_of_runShards_eq_ok shards
  obtain ⟨summaries, s₁, shards', steps⟩ := exists_steps_runShards grammar Nat.one_pos [] targets
    fun units mem => allSupported_of_mem_parts supported mem
  obtain ⟨same, rfl⟩ := Prod.mk.inj (shards'.symm.trans shards)
  obtain rfl := Except.ok.inj same
  refine isOf_of_steps (shards_pos valid) (fun i hi => ?_) steps
  exact targets i (Nat.zero_le i) (by rwa [Nat.zero_add])

/-- The lines of a run do not depend on how its entries are cut into shards. -/
theorem RunSummary.written_eq_of_run_eq_ok {d : Dataset} {s₁ s₁' s₂ s₂' : Storage}
    {summary₁ summary₂ : RunSummary} {shards : Nat} {workers : Option Nat}
    (h₁ : run grammar config s₁ d = (.ok summary₁, s₁'))
    (h₂ : run grammar { config with shards, workers } s₂ d = (.ok summary₂, s₂')) :
    RunConfig.written { config with shards, workers } s₂' summary₂.shards.length =
      config.written s₁' summary₁.shards.length := by
  rw [(isOf_of_run_eq_ok h₁).written, (isOf_of_run_eq_ok h₂).written]
  rfl

/-- A run with good settings and entries in supported languages comes to its end, as long as its
files can be written, and leaves the lines of its entries behind. Its shards, one after another,
follow one of many schedules; every schedule ends, and where no shard can go on, the same is left
behind. Another number of shards or workers gives the same lines. -/
theorem run_isOf_on_every_schedule (grammar : Grammar) (config : RunConfig) (s : Storage)
    (d : Dataset) (valid : config.validate = .ok ())
    (known : ∀ name, config.language = some name → (Language.ofName? name).isSome = true)
    (supported : AllSupported (config.selected d))
    (prepared : (s.makeDirectories config.outputDir).2 = true)
    (writable : ∀ i < (config.parts (config.selected d)).length,
      ((s.makeDirectories config.outputDir).1.writeFile?
        (shardPath config.outputDir i) []).isSome = true)
    (workers : Nat) (free : 0 < workers) :
    let start := RunState.initial config (config.selected d) (s.makeDirectories config.outputDir).1
    (∃ summary s', run grammar config s d = (.ok summary, s') ∧
      Steps grammar config workers start ⟨s', summary.shards.map .done⟩ ∧
      summary.IsOf grammar config (config.selected d) s' ∧
      ∀ {shards : Nat} {workers : Option Nat} {s₂ s₂' : Storage} {summary₂ : RunSummary},
        run grammar { config with shards, workers } s₂ d = (.ok summary₂, s₂') →
        RunConfig.written { config with shards, workers } s₂' summary₂.shards.length =
          config.written s' summary.shards.length) ∧
    Acc (fun b a => Step grammar config workers a b) start ∧
    ∀ r, Steps grammar config workers start r → (∀ next, ¬Step grammar config workers r next) →
      ∃ summary : RunSummary, r.shards = summary.shards.map .done ∧
        summary.IsOf grammar config (config.selected d) r.storage := by
  intro start
  have targets : ∀ i < (config.parts (config.selected d)).length,
      ((s.makeDirectories config.outputDir).1.target?
        (shardPath config.outputDir i)).isSome = true := by
    intro i hi
    have := writable i hi
    rwa [Storage.writeFile?_eq, Option.isSome_map] at this
  have begun : start.Keeps grammar config (config.parts (config.selected d)) :=
    RunState.keeps_initial grammar targets
  have each : ∀ units ∈ config.parts (config.selected d), AllSupported units :=
    fun _ mem => allSupported_of_mem_parts supported mem
  refine ⟨?_, begun.acc, ?_⟩
  · have admitted := admittedEntries_eq_ok.2 ⟨valid, known, supported, rfl⟩
    obtain ⟨summaries, s', shards, steps⟩ := exists_steps_runShards grammar free []
      (fun i _ hi => targets i (by rwa [List.length_nil, Nat.zero_add] at hi)) each
    have ok : run grammar config s d = (.ok ⟨summaries⟩, s') :=
      run_eq_ok.2 ⟨admitted, prepared, shards⟩
    exact ⟨⟨summaries⟩, s', ok, steps, RunSummary.isOf_of_run_eq_ok ok,
      fun h₂ => RunSummary.written_eq_of_run_eq_ok ok h₂⟩
  · rintro ⟨s', shards⟩ steps stuck
    obtain ⟨summaries, done⟩ := (Steps.keeps begun steps).exists_done each free stuck
    obtain rfl : shards = summaries.map .done := done
    exact ⟨⟨summaries⟩, rfl, RunSummary.isOf_of_steps (shards_pos valid) targets steps⟩

/-- Settings that admit the documentation of `padsUnit`. -/
def padsConfig : RunConfig := { outputDir := "out".toList, shards := 2, bounds := ⟨0, 9⟩ }

theorem records_run_padsConfig :
    ∃ summary s', run (fun _ _ => padsTree) padsConfig ⟨.empty, []⟩ ⟨[padsUnit, padsUnit]⟩ =
        (.ok summary, s') ∧
      summary.records = 2 ∧ summary.shards.length = 2 ∧
      ExtractionRecord.ofFile? (padsConfig.written s' summary.shards.length) =
        some [padsRecord, padsRecord] := by
  obtain ⟨⟨summary, s', ok, -, isOf, -⟩, -⟩ := run_isOf_on_every_schedule (fun _ _ => padsTree)
    padsConfig ⟨.empty, []⟩ ⟨[padsUnit, padsUnit]⟩ rfl nofun
    (show AllSupported [padsUnit, padsUnit] by unfold AllSupported; decide +kernel)
    (by decide +kernel) (by decide +kernel) 1 Nat.one_pos
  refine ⟨summary, s', ok, isOf.records_eq.trans ?_, isOf.length_eq.trans ?_,
    isOf.ofFile?_eq.1.trans (congrArg some ?_)⟩
  · decide +kernel
  · decide +kernel
  · decide +kernel

end DocHarvest
