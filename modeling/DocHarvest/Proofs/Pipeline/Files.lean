import DocHarvest.Pipeline.Shard
import DocHarvest.Proofs.Json.Tokens
import DocHarvest.Proofs.Storage.Write
import DocHarvest.Proofs.Text.Lines
import DocHarvest.Proofs.Text.Utf8

/-!
# The files of shards

No two shards write to the same place (`target?_shardPath_ne`), and the lines of a file are the
values that were written to it, each on a line of its own (`splitLines_jsonLines`).
-/

namespace DocHarvest

open Text

/-! ## Paths -/

/-- The name of the file of a shard. -/
def shardName (index : Nat) : Text := "batch_".toList ++ decimal index ++ "_data.jsonl".toList

theorem shardPath_eq (dir : Text) (index : Nat) :
    shardPath dir index = Path.join dir (shardName index) := rfl

theorem shardName_inj {i j : Nat} (h : shardName i = shardName j) : i = j :=
  decimal_inj (List.append_cancel_left (List.append_cancel_right h))

theorem not_mem_shardName (index : Nat) : '/' ∉ shardName index := by
  unfold shardName
  rw [List.mem_append, List.mem_append, not_or, not_or]
  exact ⟨⟨by decide, not_mem_decimal (by decide) index⟩, by decide⟩

theorem Path.getLast?_pieces_join (dir : Text) {name : Text} (h : '/' ∉ name) :
    (pieces (join dir name)).getLast? = some name := by
  have single : splitOn '/' name = [name] := splitOn_of_not_mem h
  unfold pieces join
  split
  · next ends =>
    rw [Bool.or_eq_true, List.isEmpty_iff, decide_eq_true_eq] at ends
    rcases ends with rfl | slash
    · rw [List.nil_append, single]
      rfl
    · obtain ⟨lead, rfl⟩ := List.getLast?_eq_some_iff.1 slash
      rw [List.append_assoc, List.singleton_append, splitOn_append, single, List.getLast?_concat]
  · rw [splitOn_append, single, List.getLast?_concat]

theorem target?_shardPath_ne {s : Storage} {dir : Text} {i j : Nat} {p q : List Text} (ne : i ≠ j)
    (hi : s.target? (shardPath dir i) = some p) (hj : s.target? (shardPath dir j) = some q) :
    p ≠ q := by
  obtain ⟨a, name, hname, rfl, -⟩ := Storage.target?_eq_some hi
  obtain ⟨b, name', hname', rfl, -⟩ := Storage.target?_eq_some hj
  rw [shardPath_eq, Path.getLast?_pieces_join _ (not_mem_shardName _)] at hname hname'
  obtain rfl := Option.some.inj hname
  obtain rfl := Option.some.inj hname'
  intro same
  exact ne (shardName_inj (List.cons.inj (List.append_inj_right' same rfl)).1)

/-! ## Lines -/

theorem jsonLines_append (a b : List Json) : jsonLines (a ++ b) = jsonLines a ++ jsonLines b :=
  List.flatMap_append

theorem splitLines_jsonLines (values : List Json) :
    splitLines (jsonLines values) = values.map Json.render ++ [[]] := by
  induction values with
  | nil => rfl
  | cons value values ih =>
    rw [jsonLines, List.flatMap_cons, List.append_assoc, List.singleton_append, splitLines,
      splitOn_append_cons (Json.not_mem_render value)]
    exact congrArg _ ih

end DocHarvest
