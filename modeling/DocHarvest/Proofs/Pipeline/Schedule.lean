import Mathlib.Logic.Relation
import DocHarvest.Proofs.Pipeline.Shards

/-!
# Shards run side by side

A `RunState` is the storage and where every shard is. `Step` lets any shard go on: it opens its file
if a worker is free, goes through its next entry, writes some of what it has buffered, or finishes.
An extractor is kept for every language that a shard has met.

`RunState.Keeps` is what all steps keep (`Step.keeps`): what a shard has written and buffered are
the lines of the entries that it has gone through. Every step takes some of the work that is left
(`Step.weight_lt`), and as long as there is some, a step can be made (`exists_step`).
-/

namespace DocHarvest

open Text RunConfig

/-! ## States -/

/-- Finds the records of source files in one language. -/
structure Extractor where
  language : Language
  options : ExtractOptions
  bounds : TokenBounds

/-- The records of a source file. -/
def Extractor.records (e : Extractor) (grammar : Grammar) (unit : SourceUnit) :
    Except SkipReason (List ExtractionRecord) :=
  e.language.rules.records e.options e.bounds (grammar e.language unit.code) unit

/-- A shard at work. -/
structure Work where
  units : List SourceUnit
  /-- The entries that it has not gone through yet. -/
  pending : List SourceUnit
  /-- The extractors that it has, under the names of their languages. -/
  extractors : OrderedMap Extractor := {}
  skipped : Nat := 0
  written : Nat := 0
  /-- The bytes that are not in the file yet. -/
  buffer : Bytes := []

namespace Work

/-- The extractor for a language: the one that the shard has, or a new one. -/
def extractor (config : RunConfig) (w : Work) (language : Language) : Extractor :=
  (w.extractors.get? language.name.toList).getD ⟨language, config.extractOptions, config.bounds⟩

/-- Goes through an entry in a language; `pending` are the entries behind it. -/
def take (grammar : Grammar) (config : RunConfig) (w : Work) (unit : SourceUnit)
    (pending : List SourceUnit) (language : Language) : Work :=
  let e := w.extractor config language
  let w := { w with pending, extractors := w.extractors.insert language.name.toList e }
  match e.records grammar unit with
  | .ok records =>
    { w with
      written := w.written + records.length
      buffer := w.buffer ++ (jsonLines (records.map ExtractionRecord.toJson)).toBytes }
  | .error _ => { w with skipped := w.skipped + 1 }

/-- What was done for the shard. -/
def summary (config : RunConfig) (w : Work) (index : Nat) : ShardSummary :=
  ⟨index, w.units.length, w.skipped, w.written, shardPath config.outputDir index⟩

end Work

/-- Where a shard is. -/
inductive ShardState where
  | waiting (units : List SourceUnit)
  | working (work : Work)
  | done (summary : ShardSummary)

/-- Whether a shard is at work. -/
def ShardState.isWorking : ShardState → Bool
  | working _ => true
  | waiting _ | done _ => false

/-- The storage, and where every shard is. -/
structure RunState where
  storage : Storage
  shards : List ShardState

/-- The number of shards at work. -/
def RunState.running (r : RunState) : Nat := r.shards.countP ShardState.isWorking

/-- The state before any shard has begun. -/
def RunState.initial (config : RunConfig) (entries : List SourceUnit) (s : Storage) : RunState :=
  ⟨s, (config.parts entries).map .waiting⟩

/-- A step of one shard, where so many workers are there. -/
inductive Step (grammar : Grammar) (config : RunConfig) (workers : Nat) : RunState → RunState → Prop
  /-- A worker takes up a shard and empties its file. -/
  | start {r : RunState} {i : Nat} {units : List SourceUnit} {s : Storage}
      (shard : r.shards[i]? = some (.waiting units)) (free : r.running < workers)
      (write : r.storage.writeFile? (shardPath config.outputDir i) [] = some s) :
      Step grammar config workers r
        ⟨s, r.shards.set i (.working { units, pending := units })⟩
  /-- A shard goes through its next entry. -/
  | entry {r : RunState} {i : Nat} {w : Work} {unit : SourceUnit} {pending : List SourceUnit}
      {language : Language} (shard : r.shards[i]? = some (.working w))
      (next : w.pending = unit :: pending)
      (known : Language.ofName? unit.language = some language) :
      Step grammar config workers r
        ⟨r.storage, r.shards.set i (.working (w.take grammar config unit pending language))⟩
  /-- Some of the buffer goes to the end of the file. -/
  | flush {r : RunState} {i n : Nat} {w : Work} {content : Bytes} {s : Storage}
      (shard : r.shards[i]? = some (.working w)) (pos : 0 < n) (le : n ≤ w.buffer.length)
      (read : r.storage.readFile? (shardPath config.outputDir i) = some content)
      (write : r.storage.writeFile? (shardPath config.outputDir i) (content ++ w.buffer.take n) =
        some s) :
      Step grammar config workers r
        ⟨s, r.shards.set i (.working { w with buffer := w.buffer.drop n })⟩
  /-- A shard is done. -/
  | finish {r : RunState} {i : Nat} {w : Work} (shard : r.shards[i]? = some (.working w))
      (pending : w.pending = []) (buffer : w.buffer = []) :
      Step grammar config workers r ⟨r.storage, r.shards.set i (.done (w.summary config i))⟩

/-- One state comes after another in a schedule. -/
abbrev Steps (grammar : Grammar) (config : RunConfig) (workers : Nat) :
    RunState → RunState → Prop :=
  Relation.ReflTransGen (Step grammar config workers)

/-! ## What steps keep -/

variable {grammar : Grammar} {config : RunConfig} {workers : Nat}

/-- A shard at work has gone through some of its entries; their lines are in the file and the
buffer. -/
structure Work.Keeps (grammar : Grammar) (config : RunConfig) (units : List SourceUnit)
    (content : Option Bytes) (w : Work) : Prop where
  units_eq : w.units = units
  gone : ∃ gone, units = gone ++ w.pending ∧
    (∃ file, content = some file ∧ file ++ w.buffer = config.linesOf grammar gone) ∧
    w.written = config.recordCount grammar gone ∧ w.skipped = config.skipCount grammar gone
  extractors : ∀ {language : Language} {e : Extractor},
    w.extractors.get? language.name.toList = some e →
      e = ⟨language, config.extractOptions, config.bounds⟩

/-- What a shard has done to its file, by where it is. -/
def ShardState.Keeps (grammar : Grammar) (config : RunConfig) (index : Nat)
    (units : List SourceUnit) (content : Option Bytes) : ShardState → Prop
  | waiting us => us = units
  | working w => w.Keeps grammar config units content
  | done summary =>
    summary = config.summaryOf grammar index units ∧ content = some (config.linesOf grammar units)

/-- Every shard has done to its file what it should have, and all files can be written. -/
structure RunState.Keeps (grammar : Grammar) (config : RunConfig) (parts : List (List SourceUnit))
    (r : RunState) : Prop where
  length_eq : r.shards.length = parts.length
  target : ∀ i < parts.length, (r.storage.target? (shardPath config.outputDir i)).isSome = true
  shard : ∀ {i : Nat} {units : List SourceUnit} {state : ShardState}, parts[i]? = some units →
    r.shards[i]? = some state →
      state.Keeps grammar config i units (r.storage.readFile? (shardPath config.outputDir i))

/-! ### Entries -/

theorem Language.name_inj {a b : Language} (h : a.name.toList = b.name.toList) : a = b := by
  revert h
  cases a <;> cases b <;> first | exact fun _ => rfl | exact fun h => absurd h (by decide)

namespace Work.Keeps

variable {units : List SourceUnit} {content : Option Bytes} {w : Work}

/-- An extractor that is kept is as good as a new one. -/
theorem extractor_eq (h : w.Keeps grammar config units content) (language : Language) :
    w.extractor config language = ⟨language, config.extractOptions, config.bounds⟩ := by
  unfold extractor
  cases hg : w.extractors.get? language.name.toList with
  | none => rfl
  | some e => exact h.extractors hg

theorem take_eq (h : w.Keeps grammar config units content) {unit : SourceUnit}
    {language : Language} (known : Language.ofName? unit.language = some language)
    (pending : List SourceUnit) :
    w.take grammar config unit pending language =
      { w with
        pending
        extractors := w.extractors.insert language.name.toList
          ⟨language, config.extractOptions, config.bounds⟩
        buffer := w.buffer ++ config.linesOf grammar [unit]
        written := w.written + config.recordCount grammar [unit]
        skipped := w.skipped + config.skipCount grammar [unit] } := by
  have process : Extractor.records ⟨language, config.extractOptions, config.bounds⟩ grammar unit =
      config.process grammar unit := by
    rw [RunConfig.process, known]
    rfl
  simp only [Work.take, h.extractor_eq, process]
  cases hp : config.process grammar unit with
  | ok records => simp [linesOf, recordCount, skipCount, recordsOf, isSkipped, hp]
  | error reason =>
    simp [linesOf, recordCount, skipCount, recordsOf, isSkipped, hp, jsonLines, Text.toBytes]

theorem take (h : w.Keeps grammar config units content) {unit : SourceUnit}
    {pending : List SourceUnit} {language : Language} (next : w.pending = unit :: pending)
    (known : Language.ofName? unit.language = some language) :
    (w.take grammar config unit pending language).Keeps grammar config units content := by
  obtain ⟨gone, split, ⟨file, read, lines⟩, written, skipped⟩ := h.gone
  rw [h.take_eq known]
  refine ⟨h.units_eq, ⟨gone ++ [unit], ?_, ⟨file, read, ?_⟩, ?_, ?_⟩, ?_⟩
  · rw [split, next, List.append_assoc]
    rfl
  · rw [linesOf_append, ← lines, List.append_assoc]
  · rw [recordCount_append, ← written]
  · rw [skipCount_append, ← skipped]
  · intro l e hg
    rw [OrderedMap.get?_insert] at hg
    split at hg
    · next same =>
      obtain rfl := Language.name_inj same
      exact (Option.some.inj hg).symm
    · exact h.extractors hg

end Work.Keeps

/-! ### Steps -/

namespace RunState.Keeps

variable {parts : List (List SourceUnit)} {r : RunState}

/-- A step of one shard leaves the others alone if it leaves their files alone. -/
theorem set (h : r.Keeps grammar config parts) {i : Nat} {s : Storage} {state : ShardState}
    (targets : ∀ path, s.target? path = r.storage.target? path)
    (others : ∀ j < parts.length, j ≠ i → s.readFile? (shardPath config.outputDir j) =
      r.storage.readFile? (shardPath config.outputDir j))
    (self : ∀ {units : List SourceUnit}, parts[i]? = some units →
      state.Keeps grammar config i units (s.readFile? (shardPath config.outputDir i))) :
    RunState.Keeps grammar config parts ⟨s, r.shards.set i state⟩ where
  length_eq := by rw [List.length_set, h.length_eq]
  target j hj := by rw [targets]; exact h.target j hj
  shard {j units other} hp hs := by
    by_cases same : i = j
    · subst same
      have lt : i < r.shards.length := h.length_eq ▸ (List.getElem?_eq_some_iff.1 hp).1
      rw [List.getElem?_set_self lt] at hs
      obtain rfl := Option.some.inj hs
      exact self hp
    · rw [List.getElem?_set_ne same] at hs
      rw [others j (List.getElem?_eq_some_iff.1 hp).1 (Ne.symm same)]
      exact h.shard hp hs

theorem lt_length (h : r.Keeps grammar config parts) {i : Nat} {state : ShardState}
    (shard : r.shards[i]? = some state) : i < parts.length :=
  h.length_eq ▸ (List.getElem?_eq_some_iff.1 shard).1

/-- What writing to the file of one shard does to the files of all. -/
theorem write (h : r.Keeps grammar config parts) {i : Nat} {content : Bytes}
    {s : Storage} (write : r.storage.writeFile? (shardPath config.outputDir i) content = some s) :
    (∀ path, s.target? path = r.storage.target? path) ∧
      (∀ j < parts.length, j ≠ i → s.readFile? (shardPath config.outputDir j) =
        r.storage.readFile? (shardPath config.outputDir j)) ∧
      s.readFile? (shardPath config.outputDir i) = some content := by
  rw [Storage.writeFile?_eq] at write
  obtain ⟨place, hp, rfl⟩ := Option.map_eq_some_iff.1 write
  refine ⟨Storage.target?_write hp content, fun j hj ne => ?_, Storage.readFile?_write hp content⟩
  obtain ⟨place', hp'⟩ := Option.isSome_iff_exists.1 (h.target j hj)
  exact Storage.readFile?_write_of_ne hp hp' (target?_shardPath_ne (Ne.symm ne) hp hp').symm content

end RunState.Keeps

theorem Step.keeps {parts : List (List SourceUnit)} {a b : RunState}
    (h : a.Keeps grammar config parts) (step : Step grammar config workers a b) :
    b.Keeps grammar config parts := by
  cases step with
  | @start i units s shard free write =>
    obtain ⟨targets, others, read⟩ := h.write write
    refine h.set targets others fun hp => ?_
    obtain rfl : units = _ := h.shard hp shard
    rw [read]
    exact ⟨rfl, ⟨[], rfl, ⟨[], rfl, rfl⟩, rfl, rfl⟩, fun hg => absurd hg nofun⟩
  | entry shard next known =>
    exact h.set (fun _ => rfl) (fun _ _ _ => rfl) fun hp =>
      Work.Keeps.take (h.shard hp shard) next known
  | @flush i n w content s shard pos le read write =>
    obtain ⟨targets, others, read'⟩ := h.write write
    refine h.set targets others fun hp => ?_
    have kept : w.Keeps grammar config _ _ := h.shard hp shard
    obtain ⟨gone, split, ⟨file, hf, lines⟩, counts⟩ := kept.gone
    rw [read] at hf
    obtain rfl := Option.some.inj hf
    refine ⟨kept.units_eq, ⟨gone, split, ⟨_, read', ?_⟩, counts⟩, kept.extractors⟩
    rw [List.append_assoc, List.take_append_drop, lines]
  | @finish i w shard pending buffer =>
    refine h.set (fun _ => rfl) (fun _ _ _ => rfl) fun hp => ?_
    have kept : w.Keeps grammar config _ _ := h.shard hp shard
    obtain ⟨gone, split, ⟨file, read, lines⟩, written, skipped⟩ := kept.gone
    rw [pending, List.append_nil] at split
    rw [buffer, List.append_nil] at lines
    refine ⟨?_, by rw [read, lines, split]⟩
    rw [Work.summary, kept.units_eq, written, skipped, split]
    rfl

theorem RunState.keeps_initial (grammar : Grammar) {entries : List SourceUnit} {s : Storage}
    (target : ∀ i < (config.parts entries).length,
      (s.target? (shardPath config.outputDir i)).isSome = true) :
    (RunState.initial config entries s).Keeps grammar config (config.parts entries) where
  length_eq := List.length_map _
  target := target
  shard hp hs := by
    rw [initial, List.getElem?_map, hp] at hs
    obtain rfl := Option.some.inj hs
    rfl

theorem Steps.keeps {parts : List (List SourceUnit)} {a b : RunState}
    (h : a.Keeps grammar config parts)
    (steps : Steps grammar config workers a b) :
    b.Keeps grammar config parts := by
  induction steps with
  | refl => exact h
  | tail _ step ih => exact step.keeps ih

/-! ## How far a run is -/

/-- The work that is left in a shard. -/
def ShardState.weight (grammar : Grammar) (config : RunConfig) : ShardState → Nat
  | waiting units => units.length + (config.linesOf grammar units).length + 2
  | working w =>
    w.pending.length + (config.linesOf grammar w.pending).length + w.buffer.length + 1
  | done _ => 0

/-- The work that is left in a run. -/
def RunState.weight (grammar : Grammar) (config : RunConfig) (r : RunState) : Nat :=
  r.shards.foldr (fun shard sum => shard.weight grammar config + sum) 0

theorem foldr_set_lt {α : Type} (f : α → Nat) {as : List α} {i : Nat} {a b : α}
    (h : as[i]? = some a) (lt : f b < f a) :
    (as.set i b).foldr (fun a sum => f a + sum) 0 < as.foldr (fun a sum => f a + sum) 0 := by
  induction as generalizing i with
  | nil => exact absurd h nofun
  | cons c as ih =>
    cases i with
    | zero =>
      obtain rfl := Option.some.inj h
      exact Nat.add_lt_add_right lt _
    | succ i => exact Nat.add_lt_add_left (ih h) _

theorem Step.weight_lt {parts : List (List SourceUnit)} {a b : RunState}
    (h : a.Keeps grammar config parts) (step : Step grammar config workers a b) :
    b.weight grammar config < a.weight grammar config := by
  cases step with
  | start shard free write =>
    refine foldr_set_lt _ shard ?_
    simp [ShardState.weight]
  | @entry i w unit pending language shard next known =>
    refine foldr_set_lt _ shard ?_
    have kept : w.Keeps grammar config _ _ :=
      h.shard (List.getElem?_eq_getElem (h.lt_length shard)) shard
    have lines : config.linesOf grammar (unit :: pending) =
        config.linesOf grammar [unit] ++ config.linesOf grammar pending :=
      linesOf_append [unit] pending
    simp only [ShardState.weight, kept.take_eq known, lines, next, List.length_append,
      List.length_cons]
    omega
  | flush shard pos le read write =>
    refine foldr_set_lt _ shard ?_
    simp only [ShardState.weight, List.length_drop]
    omega
  | finish shard pending buffer =>
    refine foldr_set_lt _ shard ?_
    simp [ShardState.weight]

theorem exists_step {parts : List (List SourceUnit)} {r : RunState}
    (h : r.Keeps grammar config parts) (supported : ∀ units ∈ parts, AllSupported units)
    (free : 0 < workers) {i : Nat} {state : ShardState} (shard : r.shards[i]? = some state)
    (more : ∀ summary, state ≠ .done summary) :
    ∃ next, Step grammar config workers r next := by
  -- what is written to the file of any shard is written
  have writes : ∀ {j : Nat} {other : ShardState}, r.shards[j]? = some other → ∀ content,
      ∃ s, r.storage.writeFile? (shardPath config.outputDir j) content = some s := by
    intro j other hj content
    obtain ⟨place, hp⟩ := Option.isSome_iff_exists.1 (h.target j (h.lt_length hj))
    exact ⟨_, by rw [Storage.writeFile?_eq, hp]; rfl⟩
  by_cases working : ∃ (j : Nat) (w : Work), r.shards[j]? = some (.working w)
  · obtain ⟨j, w, hj⟩ := working
    obtain ⟨units, part⟩ : ∃ units, parts[j]? = some units :=
      ⟨_, List.getElem?_eq_getElem (h.lt_length hj)⟩
    have kept : w.Keeps grammar config units _ := h.shard part hj
    obtain ⟨gone, split, ⟨file, read, -⟩, -⟩ := kept.gone
    by_cases full : 0 < w.buffer.length
    · obtain ⟨s, hs⟩ := writes hj (file ++ w.buffer.take w.buffer.length)
      exact ⟨_, .flush hj full (Nat.le_refl _) read hs⟩
    · have empty : w.buffer = [] := List.length_eq_zero_iff.1 (by omega)
      cases next : w.pending with
      | nil => exact ⟨_, .finish hj next empty⟩
      | cons unit pending =>
        have mem : unit ∈ units := by
          rw [split, next]
          exact List.mem_append_right _ List.mem_cons_self
        obtain ⟨language, known⟩ := Option.isSome_iff_exists.1
          (supported units (List.mem_of_getElem? part) unit mem)
        exact ⟨_, .entry hj next known⟩
  · cases state with
    | done summary => exact absurd rfl (more summary)
    | working w => exact absurd ⟨i, w, shard⟩ working
    | waiting units =>
      have idle : r.running = 0 := by
        refine List.countP_eq_zero.2 fun other mem at_work => ?_
        obtain ⟨j, hj⟩ := List.mem_iff_getElem?.1 mem
        cases other with
        | working w => exact working ⟨j, w, hj⟩
        | waiting _ | done _ => exact absurd at_work nofun
      obtain ⟨s, hs⟩ := writes shard []
      exact ⟨_, .start shard (by rw [idle]; exact free) hs⟩

theorem RunState.Keeps.acc {parts : List (List SourceUnit)} {r : RunState}
    (h : r.Keeps grammar config parts) :
    Acc (fun b a => Step grammar config workers a b) r := by
  generalize left : r.weight grammar config = n
  induction n using Nat.strongRecOn generalizing r with
  | ind n ih =>
    refine .intro r fun next step => ?_
    exact ih _ (left ▸ step.weight_lt h) (step.keeps h) rfl

theorem RunState.Keeps.exists_done {parts : List (List SourceUnit)} {r : RunState}
    (h : r.Keeps grammar config parts) (supported : ∀ units ∈ parts, AllSupported units)
    (free : 0 < workers) (stuck : ∀ next, ¬Step grammar config workers r next) :
    ∃ summaries : List ShardSummary, r.shards = summaries.map .done := by
  have each : ∀ state ∈ r.shards, ∃ summary, .done summary = state := by
    intro state mem
    obtain ⟨i, shard⟩ := List.mem_iff_getElem?.1 mem
    by_cases done : ∃ summary, .done summary = state
    · exact done
    · obtain ⟨next, step⟩ := exists_step h supported free shard
        fun summary same => done ⟨summary, same.symm⟩
      exact absurd step (stuck next)
  generalize r.shards = shards at each
  induction shards with
  | nil => exact ⟨[], rfl⟩
  | cons state shards ih =>
    obtain ⟨summary, rfl⟩ := each state List.mem_cons_self
    obtain ⟨summaries, rfl⟩ := ih fun other mem => each other (List.mem_cons_of_mem _ mem)
    exact ⟨summary :: summaries, rfl⟩

/-- Where all shards are done, the run has left behind what it should have. -/
theorem RunState.Keeps.isOf {entries : List SourceUnit} {s : Storage}
    {summaries : List ShardSummary}
    (h : RunState.Keeps grammar config (config.parts entries) ⟨s, summaries.map .done⟩)
    (pos : 0 < config.shards) : RunSummary.IsOf grammar config entries s ⟨summaries⟩ := by
  have length : summaries.length = (config.parts entries).length := by
    rw [← h.length_eq, List.length_map]
  have done : ∀ {i : Nat} {units : List SourceUnit}, (config.parts entries)[i]? = some units →
      summaries[i]? = some (config.summaryOf grammar i units) ∧
      s.readFile? (shardPath config.outputDir i) = some (config.linesOf grammar units) := by
    intro i units hp
    have lt : i < summaries.length := length ▸ (List.getElem?_eq_some_iff.1 hp).1
    have shard : (summaries.map ShardState.done)[i]? = some (.done summaries[i]) := by
      rw [List.getElem?_map, List.getElem?_eq_getElem lt, Option.map_some]
    obtain ⟨same, read⟩ : _ ∧ _ := h.shard hp shard
    exact ⟨by rw [List.getElem?_eq_getElem lt, same], read⟩
  have all : summaries = (config.parts entries).zipIdx.map
      fun pair => config.summaryOf grammar pair.2 pair.1 := by
    refine List.ext_getElem? fun i => ?_
    rw [List.getElem?_map, List.getElem?_zipIdx]
    cases hp : (config.parts entries)[i]? with
    | none =>
      rw [List.getElem?_eq_none_iff, ← length] at hp
      rw [List.getElem?_eq_none hp]
      rfl
    | some units =>
      rw [(done hp).1, Nat.zero_add]
      rfl
  rw [all]
  exact RunSummary.isOf_of_parts pos fun hp => (done hp).2

end DocHarvest
