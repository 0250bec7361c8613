import DocHarvest.Proofs.Pipeline.Schedule

/-!
# Shards run one after another

Running shards one after another is one of their schedules (`exists_steps_runShards`). A shard goes
through all its entries before anything is written (`exists_steps_entries`); `steps_runShard` : a
shard that is run makes the steps of a schedule in which no other shard goes on.
-/

namespace DocHarvest

open Text RunConfig

variable {grammar : Grammar} {config : RunConfig} {workers : Nat}

theorem exists_steps_entries (workers : Nat) {s : Storage} {shards : List ShardState} {i : Nat}
    (lt : i < shards.length) {units : List SourceUnit} (supported : AllSupported units)
    {content : Option Bytes} {w : Work} (kept : w.Keeps grammar config units content) :
    ∃ w' : Work, w'.pending = [] ∧ w'.Keeps grammar config units content ∧
      Steps grammar config workers ⟨s, shards.set i (.working w)⟩
        ⟨s, shards.set i (.working w')⟩ := by
  generalize left : w.pending = pending
  induction pending generalizing w with
  | nil => exact ⟨w, left, kept, .refl⟩
  | cons unit pending ih =>
    obtain ⟨gone, split, -⟩ := kept.gone
    have mem : unit ∈ units := by
      rw [split, left]
      exact List.mem_append_right _ List.mem_cons_self
    obtain ⟨language, known⟩ := Option.isSome_iff_exists.1 (supported unit mem)
    obtain ⟨w', done, kept', steps⟩ := ih (kept.take left known) (by rw [kept.take_eq known])
    refine ⟨w', done, kept', .head ?_ steps⟩
    have step : Step grammar config workers ⟨s, shards.set i (.working w)⟩ _ :=
      .entry (List.getElem?_set_self lt) left known
    rwa [List.set_set] at step

/-- All that is in the buffer goes to the file at once. -/
theorem steps_flush (workers : Nat) {s : Storage} {shards : List ShardState} {i : Nat}
    (lt : i < shards.length) {place : List Text}
    (target : s.target? (shardPath config.outputDir i) = some place) (content : Bytes) (w : Work) :
    Steps grammar config workers ⟨s.write place content, shards.set i (.working w)⟩
      ⟨s.write place (content ++ w.buffer), shards.set i (.working { w with buffer := [] })⟩ := by
  by_cases full : 0 < w.buffer.length
  · have step : Step grammar config workers
        ⟨s.write place content, shards.set i (.working w)⟩
        ⟨(s.write place content).write place (content ++ w.buffer.take w.buffer.length), _⟩ :=
      .flush (List.getElem?_set_self lt) full (Nat.le_refl _)
        (Storage.readFile?_write target content)
        (by rw [Storage.writeFile?_eq, Storage.target?_write target, target]; rfl)
    rw [List.set_set, List.drop_length, List.take_length, Storage.write_write] at step
    exact .single step
  · have empty : w.buffer = [] := List.length_eq_zero_iff.1 (by omega)
    rw [empty, List.append_nil, ← empty]

/-- A shard that is run makes the steps of a schedule in which no other shard goes on. -/
theorem steps_runShard {s : Storage} {shards : List ShardState} {i : Nat}
    {units : List SourceUnit} {place : List Text} (shard : shards[i]? = some (.waiting units))
    (free : RunState.running ⟨s, shards⟩ < workers)
    (target : s.target? (shardPath config.outputDir i) = some place)
    (supported : AllSupported units) :
    Steps grammar config workers ⟨s, shards⟩
      ⟨s.write place (config.linesOf grammar units),
        shards.set i (.done (config.summaryOf grammar i units))⟩ := by
  have lt := (List.getElem?_eq_some_iff.1 shard).1
  have start : Step grammar config workers ⟨s, shards⟩
      ⟨s.write place [], shards.set i (.working { units, pending := units })⟩ :=
    .start shard free (by rw [Storage.writeFile?_eq, target]; rfl)
  have kept : Work.Keeps grammar config units (some []) { units, pending := units } :=
    ⟨rfl, ⟨[], rfl, ⟨[], rfl, rfl⟩, rfl, rfl⟩, fun hg => absurd hg nofun⟩
  obtain ⟨w, pending, kept, entries⟩ := exists_steps_entries workers (s := s.write place []) lt
    supported kept
  obtain ⟨gone, split, ⟨file, hf, lines⟩, written, skipped⟩ := kept.gone
  obtain rfl := Option.some.inj hf
  rw [pending, List.append_nil] at split
  subst split
  rw [List.nil_append] at lines
  have flush : Steps grammar config workers _ _ := steps_flush workers lt target [] w
  rw [List.nil_append, lines] at flush
  have summary : Work.summary config { w with buffer := [] } i =
      config.summaryOf grammar i units := by
    rw [Work.summary, kept.units_eq, written, skipped]
    rfl
  have finish : Step grammar config workers
      ⟨s.write place (config.linesOf grammar units),
        shards.set i (.working { w with buffer := [] })⟩ _ :=
    .finish (List.getElem?_set_self lt) pending rfl
  rw [List.set_set, summary] at finish
  exact .head start (entries.trans (flush.tail finish))

/-! ## Shards in order -/

/-- Where shards are that are run one after another: some are done, the others wait. -/
def inOrder (finished : List ShardSummary) (parts : List (List SourceUnit)) : List ShardState :=
  finished.map .done ++ parts.map .waiting

section InOrder

variable (finished : List ShardSummary) (units : List SourceUnit) (parts : List (List SourceUnit))

theorem running_inOrder (s : Storage) : RunState.running ⟨s, inOrder finished parts⟩ = 0 := by
  simp [RunState.running, inOrder, ShardState.isWorking]

theorem inOrder_nil : inOrder finished [] = finished.map .done := List.append_nil _

theorem getElem?_inOrder :
    (inOrder finished (units :: parts))[finished.length]? = some (.waiting units) := by
  unfold inOrder
  rw [List.getElem?_append_right (Nat.le_of_eq (List.length_map _))]
  simp

theorem set_inOrder (summary : ShardSummary) :
    (inOrder finished (units :: parts)).set finished.length (.done summary) =
      inOrder (finished ++ [summary]) parts := by
  unfold inOrder
  rw [List.set_append_right _ _ (Nat.le_of_eq (List.length_map _))]
  simp

end InOrder

/-- Shards that are run one after another come from the state in which they wait to one in which
they are done. -/
theorem exists_steps_runShards (grammar : Grammar) (free : 0 < workers) {s : Storage}
    (finished : List ShardSummary) {parts : List (List SourceUnit)}
    (targets : ∀ i, finished.length ≤ i → i < finished.length + parts.length →
      (s.target? (shardPath config.outputDir i)).isSome = true)
    (supported : ∀ units ∈ parts, AllSupported units) :
    ∃ summaries s', runShards grammar config s finished.length parts = (.ok summaries, s') ∧
      Steps grammar config workers ⟨s, inOrder finished parts⟩
        ⟨s', (finished ++ summaries).map .done⟩ := by
  induction parts generalizing s finished with
  | nil => exact ⟨[], s, rfl, by rw [inOrder_nil, List.append_nil]⟩
  | cons units parts ih =>
    obtain ⟨place, hp⟩ := Option.isSome_iff_exists.1
      (targets finished.length (Nat.le_refl _) (by rw [List.length_cons]; omega))
    have here := supported units List.mem_cons_self
    have first := runShard_eq grammar hp here
    have kept := Storage.target?_write hp (config.linesOf grammar units)
    have turn : Steps grammar config workers _ _ :=
      steps_runShard (getElem?_inOrder finished units parts)
        (by rw [running_inOrder]; exact free) hp here
    rw [set_inOrder] at turn
    obtain ⟨summaries, s', run, steps⟩ := ih
      (finished ++ [config.summaryOf grammar finished.length units])
      (fun i hi hlt => by
        rw [List.length_append, List.length_singleton] at hi hlt
        rw [kept]
        exact targets i (by omega) (by rw [List.length_cons]; omega))
      (fun us hus => supported us (List.mem_cons_of_mem _ hus))
    rw [List.length_append, List.length_singleton] at run
    rw [List.append_assoc] at steps
    refine ⟨config.summaryOf grammar finished.length units :: summaries, s', ?_, turn.trans steps⟩
    rw [runShards, first]
    simp only [run]
    rfl

end DocHarvest
