import HarvardBench.Debugging.History
import HarvardBench.Proofs.Memory.Undo
import HarvardBench.Proofs.Success
import Mathlib.Data.List.Basic

/-! What a history holds, linked to the situations that it was taken from.

Each snapshot ends in the state of its situation, and undoing its accesses gives the memory
of the situation before. A full history gives up its oldest snapshot and takes its end
state as the origin, which keeps the links that are left.
-/

set_option autoImplicit false

namespace HarvardBench

abbrev Situation := State × Ram

namespace History

variable {history : History} {snapshot oldest : Snapshot} {older : List Snapshot}

def newestFirst (history : History) : List Snapshot := history.snapshots.toList.reverse

theorem length_newestFirst (history : History) : history.newestFirst.length = history.size := by
  simp [newestFirst, size]

theorem last?_eq_head? (history : History) : history.last? = history.newestFirst.head? := by
  simp [last?, newestFirst]

theorem pop?_of_nil (none : history.newestFirst = []) : history.pop? = .none := by
  have empty : history.snapshots = #[] := by simpa [newestFirst] using none
  simp [pop?, empty]

theorem pop?_of_cons (newest : history.newestFirst = snapshot :: older) :
    ∃ rest, history.pop? = some (snapshot, rest) ∧ rest.newestFirst = older ∧
      rest.origin = history.origin ∧ rest.limit = history.limit := by
  have kept : history.snapshots.toList = older.reverse ++ [snapshot] := by
    simpa [newestFirst] using congrArg List.reverse newest
  refine ⟨{ history with snapshots := history.snapshots.pop }, ?_, ?_, rfl, rfl⟩
  · simp [pop?, ← Array.getLast?_toList, kept]
  · simp [newestFirst, kept]

theorem newestFirst_push_of_room (snapshot : Snapshot) (room : history.size ≠ history.limit) :
    (history.push snapshot).newestFirst = snapshot :: history.newestFirst ∧
      (history.push snapshot).origin = history.origin := by
  unfold size at room
  unfold push
  rw [if_neg room]
  simp [newestFirst]

theorem exists_oldest (full : history.size = history.limit) (positive : 0 < history.limit) :
    ∃ older oldest, history.newestFirst = older ++ [oldest] := by
  have count := history.length_newestFirst
  obtain none | ⟨older, oldest, held⟩ := List.eq_nil_or_concat history.newestFirst
  · simp only [none, List.length_nil] at count
    omega
  · exact ⟨older, oldest, by rw [held, List.concat_eq_append]⟩

theorem newestFirst_push_of_full (snapshot : Snapshot) (full : history.size = history.limit)
    (held : history.newestFirst = older ++ [oldest]) :
    (history.push snapshot).newestFirst = snapshot :: older ∧
      (history.push snapshot).origin = oldest.state := by
  have kept : history.snapshots.toList = oldest :: older.reverse := by
    simpa [newestFirst] using congrArg List.reverse held
  unfold size at full
  unfold push
  rw [if_pos full]
  constructor
  · simp [newestFirst, kept]
  · simp [← Array.getElem?_toList, kept]

theorem create_eq_ok {limit : Nat} {origin : State} (made : create (some limit) origin = .ok history) :
    0 < limit ∧ history = { limit, origin } := by
  unfold create cellCount? at made
  by_cases positive : (0 : Int) < limit
  · simp only [if_pos positive, Int.toNat_natCast, bind_eq_ok_iff] at made
    obtain ⟨_, _, made⟩ := made
    exact ⟨by omega, (Except.ok.inj made).symm⟩
  · simp only [if_neg positive, reduceCtorEq] at made

@[simp] theorem limit_push (history : History) (snapshot : Snapshot) :
    (history.push snapshot).limit = history.limit := by
  unfold push
  split <;> rfl

end History

/-- The snapshots of a history, newest first, along a path of situations, latest first. -/
def Linked (origin : State) : List Snapshot → Ram → List Situation → Prop
  | [], ram, path => path.head? = some (origin, ram)
  | snapshot :: older, ram, path =>
    path.head? = some (snapshot.state, ram) ∧
      Linked origin older (ram.undo snapshot.accesses) path.tail

/-- The end state of the newest snapshot, or the origin. -/
def newestState (origin : State) (snapshots : List Snapshot) : State :=
  (snapshots.head?.map Snapshot.state).getD origin

theorem History.current_eq_newestState (history : History) :
    history.current = newestState history.origin history.newestFirst := by
  rw [current, last?_eq_head?, newestState]

section Links

variable {origin : State} {snapshots : List Snapshot} {ram : Ram} {path : List Situation}

theorem Linked.head? (linked : Linked origin snapshots ram path) :
    path.head? = some (newestState origin snapshots, ram) := by
  cases snapshots with
  | nil => exact linked
  | cons snapshot older => exact linked.1

/-- Without the oldest snapshot, its end state is the origin. -/
theorem Linked.evict {oldest : Snapshot} (linked : Linked origin (snapshots ++ [oldest]) ram path) :
    Linked oldest.state snapshots ram path := by
  -- The newest link comes first, so the oldest one is reached at the end of the induction.
  induction snapshots generalizing ram path with
  | nil => exact linked.1
  | cons snapshot older ih => exact ⟨linked.1, ih linked.2⟩

end Links

/-- A history takes a further snapshot in if undoing it gives the memory that was linked. -/
theorem Linked.push {history : History} {snapshot : Snapshot} {ram : Ram} {path : List Situation}
    (linked : Linked history.origin history.newestFirst (ram.undo snapshot.accesses) path)
    (positive : 0 < history.limit) :
    Linked (history.push snapshot).origin (history.push snapshot).newestFirst ram
      ((snapshot.state, ram) :: path) := by
  by_cases full : history.size = history.limit
  · obtain ⟨older, oldest, held⟩ := History.exists_oldest full positive
    obtain ⟨newest, origin⟩ := History.newestFirst_push_of_full snapshot full held
    rw [newest, origin]
    exact ⟨rfl, (held ▸ linked).evict⟩
  · obtain ⟨newest, origin⟩ := History.newestFirst_push_of_room snapshot full
    rw [newest, origin]
    exact ⟨rfl, linked⟩

theorem History.size_push {history : History} (bounded : history.size ≤ history.limit)
    (positive : 0 < history.limit) (snapshot : Snapshot) :
    (history.push snapshot).size = min (history.size + 1) history.limit := by
  rw [← length_newestFirst]
  by_cases full : history.size = history.limit
  · obtain ⟨older, oldest, held⟩ := exists_oldest full positive
    have count := history.length_newestFirst
    rw [held, List.length_append, List.length_singleton] at count
    rw [(newestFirst_push_of_full snapshot full held).1, List.length_cons]
    omega
  · rw [(newestFirst_push_of_room snapshot full).1, List.length_cons, length_newestFirst]
    omega

end HarvardBench
