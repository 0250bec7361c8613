import DocHarvest.Pipeline.Shard
import DocHarvest.Proofs.Traversal
import Mathlib.Data.List.Chain
import Mathlib.Data.List.Range

/-!
# The ranges of the shards

`AreEvenPieces size count ranges`: the ranges cut the numbers below `size` into `count` pieces that
follow one another, all of one length but the last. The ranges of the shards do, and on the way to
them no number exceeds the number of entries (`areEvenPieces_shardRanges`); so machine words that hold
that number hold all of them.
-/

namespace DocHarvest

/-- Ranges that follow one another from zero up to `size`. All are as long as an even share, but the
last one takes what is left over. -/
structure AreEvenPieces (size count : Nat) (ranges : List (Nat × Nat)) : Prop where
  length : ranges.length = count
  nonempty : ∀ r ∈ ranges, r.1 < r.2
  inside : ∀ r ∈ ranges, r.2 ≤ size
  first : ∀ r ∈ ranges.head?, r.1 = 0
  adjoin : ranges.IsChain fun r next => r.2 = next.1
  last : ∀ r ∈ ranges.getLast?, r.2 = size
  even : ∀ r ∈ ranges.dropLast, r.2 - r.1 = size / count

/-! ## Pieces of one length -/

/-- Consecutive pieces of one length, and one more that goes up to `size`. -/
def piecesUpTo (size chunk n : Nat) : List (Nat × Nat) :=
  (List.range n).map (fun i => (i * chunk, (i + 1) * chunk)) ++ [(n * chunk, size)]

/-- The last range is apart from the others, which are as long as a share. -/
theorem shardRanges_eq {size shards n : Nat} (h : min shards size = n + 1) :
    shardRanges size shards = piecesUpTo size (size / (n + 1)) n := by
  have inner : ∀ i ∈ List.range n,
      (i * (size / (n + 1)), if i + 1 = n + 1 then size else (i + 1) * (size / (n + 1))) =
        (i * (size / (n + 1)), (i + 1) * (size / (n + 1))) := by
    intro i hi
    have below : i ≠ n := Nat.ne_of_lt (List.mem_range.1 hi)
    simp [below]
  rw [shardRanges, h]
  simp only [List.range_succ, List.map_append, List.map_congr_left inner, piecesUpTo]
  simp

section

variable {size chunk n : Nat}

theorem of_mem_piecesUpTo (pos : 0 < chunk) (le : (n + 1) * chunk ≤ size) {r : Nat × Nat}
    (hr : r ∈ piecesUpTo size chunk n) : r.1 < r.2 ∧ r.2 ≤ size := by
  have next : ∀ i, (i + 1) * chunk = i * chunk + chunk := fun i => Nat.succ_mul i chunk
  have all := next n
  rcases List.mem_append.1 hr with hr | hr
  · obtain ⟨i, hi, rfl⟩ := List.mem_map.1 hr
    have this := next i
    have upTo : (i + 1) * chunk ≤ n * chunk := Nat.mul_le_mul_right chunk (List.mem_range.1 hi)
    dsimp only
    omega
  · obtain rfl := List.mem_singleton.1 hr
    dsimp only
    omega

/-- Each piece ends where the next one starts. -/
theorem isChain_piecesUpTo : (piecesUpTo size chunk n).IsChain fun r next => r.2 = next.1 := by
  refine List.isChain_append.2 ⟨?_, List.isChain_singleton _, ?_⟩
  · rw [List.isChain_map, List.isChain_range]
    exact fun i _ => rfl
  · -- the end of the last piece of one length, if there is any
    intro r hr last hlast
    obtain rfl := Option.some.inj hlast
    cases n with
    | zero => exact absurd hr nofun
    | succ n =>
      rw [List.range_succ, List.map_append] at hr
      obtain rfl := Option.some.inj ((List.getLast?_concat).symm.trans hr)
      rfl

theorem head?_piecesUpTo {r : Nat × Nat} (hr : r ∈ (piecesUpTo size chunk n).head?) : r.1 = 0 := by
  cases n with
  | zero =>
    obtain rfl := Option.some.inj hr
    exact Nat.zero_mul chunk
  | succ n =>
    rw [piecesUpTo, List.range_succ_eq_map] at hr
    obtain rfl := Option.some.inj hr
    exact Nat.zero_mul chunk

end

theorem areEvenPieces_piecesUpTo {size n : Nat} (h : n < size) :
    AreEvenPieces size (n + 1) (piecesUpTo size (size / (n + 1)) n) := by
  have pos : 0 < size / (n + 1) := Nat.div_pos h (Nat.succ_pos n)
  have le : (n + 1) * (size / (n + 1)) ≤ size := Nat.mul_div_le size (n + 1)
  exact {
    length := by simp [piecesUpTo]
    nonempty := fun r hr => (of_mem_piecesUpTo pos le hr).1
    inside := fun r hr => (of_mem_piecesUpTo pos le hr).2
    first := fun r => head?_piecesUpTo
    adjoin := isChain_piecesUpTo
    last := by simp [piecesUpTo]
    even := by
      intro r hr
      rw [piecesUpTo, List.dropLast_concat] at hr
      obtain ⟨i, -, rfl⟩ := List.mem_map.1 hr
      rw [Nat.succ_mul, Nat.add_sub_cancel_left] }

/-! ## Numbers within a limit -/

/-- The number, if it does not exceed the limit. -/
def within? (limit n : Nat) : Option Nat := if n ≤ limit then some n else none

/-- `shardRanges` with products and sums that may exceed a limit; then there are no ranges at all. -/
def shardRangesWithin? (limit size shards : Nat) : Option (List (Nat × Nat)) :=
  let count := min shards size
  if count = 0 then some []
  else
    let chunk := size / count
    (List.range count).mapM fun i => do
      let start ← within? limit (i * chunk)
      let next ← within? limit (i + 1)
      if next = count then return (start, size)
      let stop ← within? limit (start + chunk)
      return (start, stop)

theorem within?_of_le {limit n : Nat} (h : n ≤ limit) : within? limit n = some n := if_pos h

/-- No number on the way to the ranges exceeds the number of entries. -/
theorem shardRangesWithin?_eq (size shards : Nat) :
    shardRangesWithin? size size shards = some (shardRanges size shards) := by
  unfold shardRangesWithin? shardRanges
  generalize hcount : min shards size = count
  dsimp only
  split
  · next none => rw [none]; rfl
  · have le : count * (size / count) ≤ size := Nat.mul_div_le size count
    generalize size / count = chunk at le ⊢
    refine mapM_eq_some_map fun i hi => ?_
    have below : i < count := List.mem_range.1 hi
    have share : (i + 1) * chunk ≤ count * chunk := Nat.mul_le_mul_right chunk below
    have next : (i + 1) * chunk = i * chunk + chunk := Nat.succ_mul i chunk
    rw [within?_of_le (by omega), within?_of_le (by omega)]
    by_cases last : i + 1 = count
    · simp [last]
    · have stop : i * chunk + chunk ≤ size := by omega
      simp [last, within?_of_le stop, next]

/-- The entries are cut into as many pieces as there are shards, but no more than there are entries,
and no number on the way exceeds the number of entries. -/
theorem areEvenPieces_shardRanges (size shards : Nat) :
    AreEvenPieces size (min shards size) (shardRanges size shards) ∧
      shardRangesWithin? size size shards = some (shardRanges size shards) := by
  refine ⟨?_, shardRangesWithin?_eq size shards⟩
  cases hcount : min shards size with
  | zero =>
    have none : shardRanges size shards = [] := by rw [shardRanges, hcount]; rfl
    rw [none]
    constructor <;> simp
  | succ n =>
    rw [shardRanges_eq hcount]
    exact areEvenPieces_piecesUpTo (by omega)

example : shardRanges 10 3 = [(0, 3), (3, 6), (6, 10)] := by decide

end DocHarvest
