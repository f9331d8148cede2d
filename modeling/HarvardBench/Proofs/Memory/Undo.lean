import HarvardBench.Machine.Cycle

/-! Taking writes back.

What undoing does to the data memory depends on that memory and the accesses alone. The
accesses of one cycle hold one write at most, with the byte that it replaced, so undoing
them gives the memory from before the cycle.
-/

set_option autoImplicit false

namespace HarvardBench

namespace Ram

def undoAccess (ram : Ram) (access : Access) : Ram :=
  match access with
  | .write address _ previous => ram.put (dataAddress address) previous
  | .fetch .. | .read .. => ram

def undo (ram : Ram) (accesses : List Access) : Ram := accesses.reverse.foldl undoAccess ram

theorem undo_cons (ram : Ram) (access : Access) (rest : List Access) :
    ram.undo (access :: rest) = (ram.undo rest).undoAccess access := by
  simp [undo]

theorem put_put_self (ram : Ram) (index : Nat) (byte : Byte) :
    (ram.put index byte).put index (ram.byteAt index) = ram := by
  obtain ⟨bytes⟩ := ram
  unfold put byteAt
  congr 1
  apply Array.ext
  · simp
  · intro position inside _
    simp only [Array.size_setIfInBounds] at inside
    by_cases same : index = position
    · subst same
      simp [inside]
    · exact (Array.getElem_setIfInBounds_ne (by simpa using inside) same).trans
        (Array.getElem_setIfInBounds_ne inside same)

end Ram

namespace Bus

theorem ram_undoAccess (bus : Bus) (access : Access) :
    (bus.undoAccess access).ram = bus.ram.undoAccess access := by
  cases access with
  | fetch address word => rfl
  | read address byte => rfl
  | write address byte previous =>
    simp only [undoAccess, load, Ram.undoAccess, BitVec.ofInt_natCast, BitVec.ofNat_toNat,
      BitVec.setWidth_eq]

theorem undo_eq (bus : Bus) (accesses : List Access) :
    bus.undo accesses = { bus with ram := bus.ram.undo accesses } := by
  unfold undo Ram.undo
  induction accesses.reverse generalizing bus with
  | nil => rfl
  | cons access rest ih =>
    rw [List.foldl_cons, List.foldl_cons, ih, ram_undoAccess]
    cases access <;> rfl

theorem ram_undo (bus : Bus) (accesses : List Access) : (bus.undo accesses).ram = bus.ram.undo accesses :=
  congrArg Bus.ram (bus.undo_eq accesses)

end Bus

theorem dataAddress_dataAddress (address : Int) : dataAddress (dataAddress address) = dataAddress address :=
  dataAddress_of_lt (dataAddress_lt address)

/-- Undoing the accesses that an instruction logs gives back the memory it found. -/
theorem Instruction.undo_execute {instruction : Instruction} {state next : State} {bus after : Bus}
    (success : instruction.execute state bus = .ok (next, after)) :
    ∃ made, after.log = bus.log ++ made ∧ after.ram.undo made = bus.ram := by
  have plain (success : (instruction.transition state).map (fun next => (next, bus)) = .ok (next, after)) :
      ∃ made, after.log = bus.log ++ made ∧ after.ram.undo made = bus.ram := by
    cases outcome : instruction.transition state with
    | error fault => simp [outcome, Except.map] at success
    | ok value =>
      simp only [outcome, Except.map, Except.ok.injEq, Prod.mk.injEq] at success
      obtain ⟨_, rfl⟩ := success
      exact ⟨[], by simp, rfl⟩
  cases instruction with
  | lod target address =>
    simp only [execute, Except.ok.injEq, Prod.mk.injEq] at success
    obtain ⟨_, rfl⟩ := success
    exact ⟨[.read (dataAddress address.toNat) (bus.peek address.toNat)], rfl, rfl⟩
  | str source address =>
    -- A store outside the memory is logged as well; putting a zero back there does nothing.
    simp only [execute, Except.ok.injEq, Prod.mk.injEq] at success
    obtain ⟨_, rfl⟩ := success
    refine ⟨[.write (dataAddress address.toNat) (BitVec.ofInt 8 (state.get source))
      (bus.peek address.toNat)], rfl, ?_⟩
    simp only [Ram.undo, List.reverse_singleton, List.foldl_cons, List.foldl_nil, Ram.undoAccess,
      dataAddress_dataAddress]
    exact Ram.put_put_self bus.ram _ _
  | _ => exact plain success

namespace Machine

variable {machine next : Machine} {snapshot : Snapshot}

theorem step_of_halted (halted : machine.state.halted = true) :
    machine.step = (.ok ⟨machine.state, none, machine.cycles, none, []⟩,
      { machine with bus := machine.bus.clearLog }) := by
  unfold step
  exact if_pos halted

theorem step_of_running (running : machine.state.halted = false)
    (success : machine.step = (.ok snapshot, next)) :
    snapshot.word = some (machine.bus.peekWord machine.state.ip) ∧ snapshot.state = next.state ∧
      next.bus.ram.undo snapshot.accesses = machine.bus.ram := by
  unfold step at success
  rw [if_neg (by simp [running])] at success
  dsimp only at success
  split at success
  · simp at success
  · next state bus executed =>
    obtain ⟨rfl, rfl⟩ := by simpa using success
    obtain ⟨made, logged, undone⟩ := Instruction.undo_execute executed
    refine ⟨rfl, rfl, ?_⟩
    -- The fetch is logged before anything else, and undoing it changes nothing.
    have fetched : bus.log = .fetch (programAddress machine.state.ip)
        (machine.bus.peekWord machine.state.ip) :: made := logged
    have kept : bus.clearLog.ram.undo made = machine.bus.ram := undone
    rw [fetched, Ram.undo_cons, kept]
    rfl

end Machine

end HarvardBench
