import HarvardBench.Proofs.Machine.CallStack

/-! Larger memories.

A memory that is larger by some zeros reads as the one it is larger than, since what lies outside
a memory reads as zero. It also takes the same writes, except one that stores something other than
zero in the cells that it has more. A machine with such memories follows the machine with the
smaller ones step by step, up to a step that makes such a write.
-/

set_option autoImplicit false

namespace HarvardBench

/-- The memory with some more cells, all zero. -/
def Ram.extended (ram : Ram) (cells : Nat) : Ram := ⟨ram.bytes ++ Array.replicate cells 0⟩

def Rom.extended (rom : Rom) (cells : Nat) : Rom := ⟨rom.words ++ Array.replicate cells 0⟩

def Bus.extended (bus : Bus) (bytes words : Nat) : Bus :=
  { bus with ram := bus.ram.extended bytes, rom := bus.rom.extended words }

def Machine.extended (machine : Machine) (bytes words : Nat) : Machine :=
  { machine with bus := machine.bus.extended bytes words }

/-- The next cycle stores a byte that is not zero outside the data memory. -/
def Machine.Spills (machine : Machine) : Prop :=
  machine.state.halted = false ∧
    ∃ source address, (machine.bus.peekWord machine.state.ip).instruction = .str source address ∧
      machine.bus.ram.size ≤ address.toNat ∧ machine.state.get source % 256 ≠ 0

theorem getD_append_replicate {width : Nat} (cells : Array (BitVec width)) (count index : Nat) :
    (cells ++ Array.replicate count 0)[index]?.getD 0 = cells[index]?.getD 0 := by
  by_cases inside : index < cells.size
  · rw [Array.getElem?_append_left inside]
  · rw [Array.getElem?_append_right (by omega), Array.getElem?_replicate,
      Array.getElem?_eq_none (Nat.le_of_not_lt inside)]
    split <;> rfl

namespace Ram

variable (ram : Ram) (cells : Nat)

theorem byteAt_extended (index : Nat) : (ram.extended cells).byteAt index = ram.byteAt index :=
  getD_append_replicate ram.bytes cells index

@[simp] theorem extended_zero : ram.extended 0 = ram := by
  simp [extended]

theorem put_extended {index : Nat} {byte : Byte} (fits : index < ram.size ∨ byte = 0 ∨ cells = 0) :
    (ram.extended cells).put index byte = (ram.put index byte).extended cells := by
  by_cases inside : index < ram.bytes.size
  · rw [put, put, extended, extended, Array.setIfInBounds_append_left inside]
  · rcases fits with within | rfl | rfl
    · exact absurd within inside
    · -- Outside, a zero goes nowhere or replaces a zero.
      have nowhere : ram.put index 0 = ram :=
        congrArg Ram.mk (Array.setIfInBounds_eq_of_size_le (Nat.le_of_not_lt inside))
      have replaced : (Array.replicate cells (0 : Byte)).setIfInBounds (index - ram.bytes.size) 0 =
          Array.replicate cells 0 := by simp
      rw [nowhere, put, extended, Array.setIfInBounds_append_right (Nat.le_of_not_lt inside), replaced]
    · rw [extended_zero, extended_zero]

end Ram

theorem Rom.wordAt_extended (rom : Rom) (cells index : Nat) :
    (rom.extended cells).wordAt index = rom.wordAt index :=
  getD_append_replicate rom.words cells index

namespace Bus

variable (bus : Bus) (bytes words : Nat) (address : Int)

theorem peekWord_extended : (bus.extended bytes words).peekWord address = bus.peekWord address :=
  bus.rom.wordAt_extended words _

theorem peek_extended : (bus.extended bytes words).peek address = bus.peek address :=
  bus.ram.byteAt_extended bytes _

theorem fetch_extended : (bus.extended bytes words).fetch address =
    ((bus.fetch address).1, (bus.fetch address).2.extended bytes words) := by
  rw [fetch, fetch, peekWord_extended]
  rfl

theorem read_extended : (bus.extended bytes words).read address =
    ((bus.read address).1, (bus.read address).2.extended bytes words) := by
  rw [read, read, peek_extended]
  rfl

theorem log_write_extended (data : Int) :
    ((bus.extended bytes words).write address data).log = (bus.write address data).log := by
  rw [write, write, peek_extended]
  rfl

theorem write_extended {data : Int}
    (fits : dataAddress address < bus.ram.size ∨ BitVec.ofInt 8 data = 0 ∨ bytes = 0) :
    (bus.extended bytes words).write address data = (bus.write address data).extended bytes words := by
  have stored := bus.ram.put_extended bytes fits
  rw [write, write, peek_extended, load, load, extended, stored]
  rfl

end Bus

namespace Instruction

variable (instruction : Instruction) (state : State) (bus : Bus) (bytes words : Nat)

/-- Whatever an instruction does to the bus, with a larger memory it leads to the same state and
makes the same accesses. -/
theorem execute_extended_map :
    (instruction.execute state (bus.extended bytes words)).map (fun made => (made.1, made.2.log)) =
      (instruction.execute state bus).map fun made => (made.1, made.2.log) := by
  have plain : ((instruction.transition state).map fun next => (next, bus.extended bytes words)).map
      (fun made => (made.1, made.2.log)) =
        ((instruction.transition state).map fun next => (next, bus)).map fun made => (made.1, made.2.log) := by
    cases instruction.transition state <;> rfl
  cases instruction with
  | lod target address =>
    rw [execute, execute, Bus.read_extended]
    rfl
  | str source address =>
    rw [execute, execute, Except.map, Except.map, Bus.log_write_extended]
  | _ => exact plain

theorem execute_extended {instruction : Instruction} {state : State} {bus : Bus}
    (fits : ∀ source address, instruction = .str source address →
      address.toNat < bus.ram.size ∨ state.get source % 256 = 0 ∨ bytes = 0) :
    instruction.execute state (bus.extended bytes words) =
      (instruction.execute state bus).map fun made => (made.1, made.2.extended bytes words) := by
  have plain : ((instruction.transition state).map fun next => (next, bus.extended bytes words)) =
      ((instruction.transition state).map fun next => (next, bus)).map
        fun made => (made.1, made.2.extended bytes words) := by
    cases instruction.transition state <;> rfl
  cases instruction with
  | lod target address =>
    rw [execute, execute, Bus.read_extended]
    rfl
  -- Only a store can tell the memories apart: one that lies outside of the smaller memory and does
  -- not write a zero.
  | str source address =>
    have own : dataAddress address.toNat = address.toNat := dataAddress_of_lt address.isLt
    have low (value : Int) (zero : value % 256 = 0) : BitVec.ofInt 8 value = 0 := by
      apply BitVec.eq_of_toNat_eq
      rw [BitVec.toNat_ofInt]
      simp
      omega
    have stored := bus.write_extended bytes words address.toNat
      (own.symm ▸ (fits source address rfl).imp_right (Or.imp_left (low (state.get source))))
    rw [execute, execute, Except.map, stored]
  | _ => exact plain

end Instruction

namespace Machine

variable (machine : Machine) (bytes words : Nat)

theorem fetch_extended : (machine.extended bytes words).fetch =
    (machine.fetch.1, machine.fetch.2.extended bytes words) := by
  have fetched : (machine.extended bytes words).bus.clearLog.fetch (machine.extended bytes words).state.ip =
      ((machine.bus.clearLog.fetch machine.state.ip).1,
        (machine.bus.clearLog.fetch machine.state.ip).2.extended bytes words) :=
    machine.bus.clearLog.fetch_extended bytes words machine.state.ip
  rw [fetch, fetched]
  rfl

def executed (machine : Machine) : Except State.Fault (State × Bus) :=
  machine.fetch.1.instruction.execute machine.fetch.2.state machine.fetch.2.bus

theorem outcome_of_running (running : machine.state.halted = false) :
    machine.step.1 = (machine.executed.map fun made => (made.1, made.2.log)).map fun made =>
      ⟨made.1, some machine.fetch.1, machine.cycles + 1,
        some (machine.symbolText machine.state.ip machine.fetch.1), made.2⟩ := by
  unfold step executed
  rw [if_neg (by simp [running])]
  dsimp only
  cases machine.fetch.1.instruction.execute machine.fetch.2.state machine.fetch.2.bus <;> rfl

theorem next_of_running (running : machine.state.halted = false) :
    machine.next = match machine.executed with
      | .ok (state, bus) => { machine.fetch.2 with bus := bus.clearLog, state, cycles := machine.cycles + 1 }
      | .error _ => machine.fetch.2 := by
  unfold next step executed
  rw [if_neg (by simp [running])]
  dsimp only
  cases machine.fetch.1.instruction.execute machine.fetch.2.state machine.fetch.2.bus <;> rfl

theorem outcome_extended : (machine.extended bytes words).step.1 = machine.step.1 := by
  cases halted : machine.state.halted with
  | true =>
    have same : (machine.extended bytes words).state.halted = true := halted
    rw [step_of_halted halted, step_of_halted same]
    rfl
  | false =>
    have same : (machine.extended bytes words).state.halted = false := halted
    rw [outcome_of_running _ halted, outcome_of_running _ same, executed, fetch_extended]
    dsimp only [extended]
    rw [Instruction.execute_extended_map]
    rfl

theorem next_extended (contained : bytes = 0 ∨ ¬machine.Spills) :
    (machine.extended bytes words).next = machine.next.extended bytes words := by
  cases halted : machine.state.halted with
  | true =>
    have same : (machine.extended bytes words).state.halted = true := halted
    rw [next, next, step_of_halted halted, step_of_halted same]
    rfl
  | false =>
    have same : (machine.extended bytes words).state.halted = false := halted
    have fits : ∀ source address, machine.fetch.1.instruction = .str source address →
        address.toNat < machine.fetch.2.bus.ram.size ∨ machine.fetch.2.state.get source % 256 = 0 ∨ bytes = 0 := by
      intro source address stores
      by_contra outside
      simp only [not_or, Nat.not_lt] at outside
      exact contained.elim outside.2.2 fun kept => kept ⟨halted, source, address, stores, outside.1, outside.2.1⟩
    rw [next_of_running _ halted, next_of_running _ same, executed, fetch_extended]
    dsimp only [extended]
    rw [Instruction.execute_extended bytes words fits, ← executed]
    cases machine.executed <;> rfl

/-- A run that does not spill does the same to larger memories. -/
theorem iterate_extended (count : Nat)
    (contained : bytes = 0 ∨ ∀ earlier < count, ¬(next^[earlier] machine).Spills) :
    next^[count] (machine.extended bytes words) = (next^[count] machine).extended bytes words := by
  induction count with
  | zero => rfl
  | succ count ih =>
    rw [Function.iterate_succ_apply', Function.iterate_succ_apply',
      ih (contained.imp_right fun kept earlier before => kept earlier (Nat.lt_succ_of_lt before))]
    exact next_extended _ bytes words (contained.imp_right fun kept => kept count (Nat.lt_succ_self count))

/-- However many zeros there are behind the program memory, a run reports the same and leaves the same
data for ever. However many there are behind the data memory, it reports the same, and leaves the same
data with these zeros behind them, until it has spilled; the cycle that spills still reports the same.
In a well-formed state there is something to report in each cycle. -/
theorem run_extended (machine : Machine) (cells : Nat) :
    (∀ count, (next^[count] (machine.extended 0 cells)).step.1 = (next^[count] machine).step.1 ∧
      (next^[count] (machine.extended 0 cells)).bus.ram = (next^[count] machine).bus.ram) ∧
    (∀ count, (∀ earlier < count, ¬(next^[earlier] machine).Spills) →
      (next^[count] (machine.extended cells 0)).step.1 = (next^[count] machine).step.1 ∧
        (next^[count] (machine.extended cells 0)).bus.ram = (next^[count] machine).bus.ram.extended cells) ∧
    (machine.state.WellFormed → ∀ count, ∃ snapshot, (next^[count] machine).step.1 = .ok snapshot) := by
  refine ⟨fun count => ?_, fun count contained => ?_, fun wellFormed count => ?_⟩
  · rw [iterate_extended machine 0 cells count (.inl rfl)]
    exact ⟨outcome_extended _ 0 cells, Ram.extended_zero _⟩
  · rw [iterate_extended machine cells 0 count (.inr contained)]
    exact ⟨outcome_extended _ cells 0, rfl⟩
  · obtain ⟨snapshot, reported, _⟩ := exists_snapshot (wellFormed_iterate wellFormed count)
    exact ⟨snapshot, reported⟩

theorem run_extended_past_a_byte :
    let machine : Machine := {
      bus := { ram := ⟨#[7]⟩, rom := ⟨#[0xB803, 0xC401]⟩ }
      state := { registers := { x := 5 }, callStack := [0] }
      depth := 1 }
    let larger := machine.extended 3 0
    larger.bus = { ram := ⟨#[7, 0, 0, 0]⟩, rom := ⟨#[0xB803, 0xC401]⟩ } ∧
      machine.next.Spills ∧ larger.next.step.1 = machine.next.step.1 ∧ larger.next.bus.ram = ⟨#[7, 0, 0, 0]⟩ ∧
      larger.next.next.bus.ram = ⟨#[7, 5, 0, 0]⟩ := by
  intro machine larger
  have reads : (machine.bus.peekWord machine.state.ip).instruction = .lod .y 3 := by decide
  have contained : ∀ earlier < 1, ¬(next^[earlier] machine).Spills := by
    intro earlier first
    obtain rfl : earlier = 0 := by omega
    rintro ⟨_, source, address, stores, _⟩
    exact absurd (reads.symm.trans stores) (by simp)
  obtain ⟨same, held⟩ := (run_extended machine 3).2.1 1 contained
  exact ⟨by decide, ⟨by decide, .x, 1, by decide, by decide, by decide⟩, same, held.trans (by decide), by decide⟩

end Machine

end HarvardBench
