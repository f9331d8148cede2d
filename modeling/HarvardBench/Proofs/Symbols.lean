import HarvardBench.Symbols
import Mathlib.Data.List.Nodup

/-! Looking up entries of ordered tables whose keys differ. -/

set_option autoImplicit false

namespace HarvardBench.Table

variable {α β : Type} [DecidableEq α] {table : Table α β} {key : α} {value : β}

theorem mem_of_get? (known : table.get? key = some value) : (key, value) ∈ table := by
  unfold get? at known
  obtain ⟨entry, found, rfl⟩ := Option.map_eq_some_iff.mp known
  have same : entry.1 = key := by simpa using List.find?_some found
  subst same
  exact List.mem_of_find?_eq_some found

theorem get?_of_mem (distinct : table.keys.Nodup) (member : (key, value) ∈ table) :
    table.get? key = some value := by
  induction table with
  | nil => simp at member
  | cons entry rest ih =>
    simp only [keys, List.map_cons, List.nodup_cons] at distinct
    rcases List.mem_cons.mp member with same | later
    · simp [get?, ← same]
    · have other : entry.1 ≠ key := by
        rintro rfl
        exact distinct.1 (List.mem_map.mpr ⟨_, later, rfl⟩)
      simpa [get?, other] using ih distinct.2 later

theorem get?_eq_none_iff : table.get? key = none ↔ key ∉ table.keys := by
  rw [get?, Option.map_eq_none_iff, List.find?_eq_none, keys, List.mem_map]
  simp only [decide_eq_true_eq, not_exists, not_and]

theorem foldl_put_of_nodup {pairs : Table α β} (distinct : (table.keys ++ pairs.keys).Nodup) :
    pairs.foldl (fun table pair => table.put pair.1 pair.2) table = table ++ pairs := by
  induction pairs generalizing table with
  | nil => rw [List.foldl_nil, List.append_nil]
  | cons pair rest ih =>
    have fresh : pair.1 ∉ table.keys := fun known =>
      (List.nodup_append.mp distinct).2.2 _ known _ List.mem_cons_self rfl
    have moved : keys (table ++ [pair]) ++ keys rest = table.keys ++ keys (pair :: rest) := by simp [keys]
    rw [List.foldl_cons, put_of_not_mem _ fresh, ih (moved ▸ distinct), List.append_assoc, List.singleton_append]

theorem ofPairs_of_nodup {pairs : Table α β} (distinct : pairs.keys.Nodup) : ofPairs pairs = pairs :=
  foldl_put_of_nodup (show (keys [] ++ pairs.keys).Nodup from distinct)

end HarvardBench.Table
