import HarvardBench.Proofs.Machine.Processor

/-! The instruction table.

The table says, operation by operation, what becomes of a processor and of the data memory.
It reads the fields of a word at their bit positions and computes on bytes, and it has no
errors. In a well-formed state a cycle is the row of the word that is fetched, and leaves
everything alone that the row does not name.
-/

set_option autoImplicit false

namespace HarvardBench

namespace Word

def operation (word : Word) : Opcode := .ofCode (word.extractLsb' 12 4).toNat

def registerAt (word : Word) (position : Nat) : Register := .ofCode (word.extractLsb' position 2).toNat

theorem opcode_eq (word : Word) : word.opcode = word.operation := by
  have small : word.toNat / 4096 < 16 := by omega
  rw [operation, opcode, BitVec.extractLsb'_toNat, Nat.shiftRight_eq_div_pow, Nat.mod_eq_of_lt small]

theorem register1_eq (word : Word) : word.register1 = word.registerAt 10 := by
  rw [register1, registerAt, BitVec.extractLsb'_toNat, Nat.shiftRight_eq_div_pow]

theorem register2_eq (word : Word) : word.register2 = word.registerAt 8 := by
  rw [register2, registerAt, BitVec.extractLsb'_toNat, Nat.shiftRight_eq_div_pow]

theorem bit_eq (word : Word) (position : Nat) :
    (word.toNat / Nat.pow 2 position % 2 == 1) = word.getLsbD position := by
  rw [BitVec.getLsbD, Nat.testBit_eq_decide_div_mod_eq, Bool.beq_eq_decide_eq]
  rfl

theorem chained_eq (word : Word) : word.chained = word.getLsbD 7 := word.bit_eq 7

theorem flags_eq (word : Word) : word.flags = ⟨word.getLsbD 11, word.getLsbD 10⟩ :=
  congr (congrArg Flags.mk (word.bit_eq 11)) (word.bit_eq 10)

end Word

def Flags.ofSum (sum : Nat) : Flags := ⟨decide (255 < sum), sum % 256 == 0⟩

namespace Processor

variable {depth : Nat} (processor : Processor depth)

/-- What a word makes of a processor that is at it, and of the data memory. -/
def perform (ram : Ram) (word : Word) : Processor depth × Ram :=
  let target := word.registerAt 10
  let left := processor.read target
  let right := processor.read (word.registerAt 8)
  let flags := processor.flags
  let carryIn := word.getLsbD 7 && flags.carry
  let sum := left.toNat + right.toNat + carryIn.toNat
  let difference := left.toNat + (~~~right).toNat + (!carryIn).toNat
  let destination : BitVec 12 := word.setWidth 12
  let address := (word.setWidth 10).toNat
  let next := processor.goto (processor.ip + 1#12)
  match word.operation with
  | .hlt => ({ processor with halted := true }, ram)
  | .add => ({ next with flags := .ofSum sum }.write target (.ofNat 8 sum), ram)
  | .sub => ({ next with flags := .ofSum difference }.write target (.ofNat 8 difference), ram)
  | .cmp => ({ next with flags := .ofSum difference }, ram)
  | .nand =>
    let result := ~~~(left &&& right)
    ({ next with flags := { flags with zero := result == 0 } }.write target result, ram)
  | .shr =>
    let result := left >>> 1
    ({ next with flags := { flags with zero := result == 0 } }.write target result, ram)
  | .stb =>
    ({ next with flags := ⟨flags.carry || word.getLsbD 11, flags.zero || word.getLsbD 10⟩ }, ram)
  | .clb =>
    ({ next with flags := ⟨flags.carry && !word.getLsbD 11, flags.zero && !word.getLsbD 10⟩ }, ram)
  | .ldi => (next.write target (word.setWidth 8), ram)
  | .lod => (next.write target (ram.bytes[address]?.getD 0), ram)
  | .str => (next, ⟨ram.bytes.setIfInBounds address left⟩)
  | .jmp => (next.goto destination, ram)
  | .jc => (next.goto (if flags.carry then destination else next.ip), ram)
  | .jz => (next.goto (if flags.zero then destination else next.ip), ram)
  | .call => ((next.push next.ip).goto destination, ram)
  | .ret =>
    let (address, popped) := next.pop
    (popped.goto address, ram)

def accesses (ram : Ram) (word : Word) : List Access :=
  let address := (word.setWidth 10).toNat
  let held := ram.bytes[address]?.getD 0
  match word.operation with
  | .lod => [.read address held]
  | .str => [.write address (processor.read (word.registerAt 10)) held]
  | _ => []

/-- The carry of a difference says that nothing was borrowed. -/
theorem carry_difference (left right : Byte) (borrow : Bool) :
    (Flags.ofSum (left.toNat + (~~~right).toNat + (!borrow).toNat)).carry =
      decide (right.toNat + borrow.toNat ≤ left.toNat) := by
  rw [Flags.ofSum, decide_eq_decide, BitVec.toNat_not]
  have := right.isLt
  cases borrow <;> simp only [Bool.not_true, Bool.not_false, Bool.toNat_true, Bool.toNat_false] <;> omega

/-! The operations on states, on the state of a processor. -/

theorem settle_state (sum : Nat) :
    Instruction.settle processor.state (.ofSum sum) =
      ({ processor with flags := .ofSum sum } : Processor depth).state := by
  have carry : decide ((255 : Int) < sum) = decide (255 < sum) := by
    rw [decide_eq_decide]
    omega
  have zero : ((sum : Int) % 256 == 0) = (sum % 256 == 0) := by
    rw [Bool.beq_eq_decide_eq, Bool.beq_eq_decide_eq, decide_eq_decide]
    omega
  simp only [Instruction.settle, Arithmetic.Outcome.ofSum, Flags.ofSum, carry, zero, state]

theorem set_result (register : Register) (sum : Nat) :
    processor.state.set register (Arithmetic.Outcome.ofSum sum).result =
      (processor.write register (.ofNat 8 sum)).state := by
  have low : BitVec.ofInt 8 ((sum : Int) % 256) = .ofNat 8 sum := by
    apply BitVec.eq_of_toNat_eq
    rw [BitVec.toNat_ofInt, BitVec.toNat_ofNat]
    omega
  rw [set_state, Arithmetic.Outcome.ofSum, low]

theorem sumOf_state (target source : Register) (chained : Bool) :
    Instruction.sumOf processor.state target source chained =
      .ofSum ((processor.read target).toNat + (processor.read source).toNat +
        (chained && processor.flags.carry).toNat : Nat) := by
  have taken (carry : Bool) : (if carry then 1 else 0 : Int) = carry.toNat := by cases carry <;> rfl
  rw [Instruction.sumOf, Arithmetic.add, get_state, get_state, taken, Int.natCast_add, Int.natCast_add]
  rfl

theorem toNat_complement (byte : Byte) : Arithmetic.complement byte.toNat = (~~~byte).toNat := by
  rw [Arithmetic.complement, BitVec.toNat_not]
  omega

theorem differenceOf_state (left right : Register) (chained : Bool) :
    Instruction.differenceOf processor.state left right chained =
      .ofSum ((processor.read left).toNat + (~~~processor.read right).toNat +
        (!(chained && processor.flags.carry)).toNat : Nat) := by
  have added (borrow : Bool) : (if borrow then 0 else 1 : Int) = (!borrow).toNat := by cases borrow <;> rfl
  rw [Instruction.differenceOf, Arithmetic.sub, get_state, get_state, toNat_complement, added,
    Int.natCast_add, Int.natCast_add]
  rfl

theorem ofInt_byte (byte : Byte) : BitVec.ofInt 8 (byte.toNat : Int) = byte := by
  rw [BitVec.ofInt_natCast, BitVec.ofNat_toNat, BitVec.setWidth_eq]

theorem storeTested_state (target : Register) (result : Byte) :
    Instruction.storeTested processor.state target result.toNat =
      ({ processor with flags := { processor.flags with zero := result == 0 } }.write target result).state := by
  have zero : ((result.toNat : Int) == 0) = (result == 0) := by
    rw [Bool.beq_eq_decide_eq, Bool.beq_eq_decide_eq, decide_eq_decide, ← BitVec.toNat_inj]
    simp
  rw [Instruction.storeTested, set_state, zero, ofInt_byte]
  cases target <;> rfl

theorem nand_toNat (left right : Byte) :
    Arithmetic.nand left.toNat right.toNat = (~~~(left &&& right)).toNat := by
  have narrow (byte : Byte) : ((byte.toNat : Int) % 256).toNat = byte.toNat := by omega
  have both := (left &&& right).isLt
  rw [BitVec.toNat_and] at both
  rw [Arithmetic.nand, narrow, narrow, BitVec.toNat_not, BitVec.toNat_and]
  omega

theorem halve_toNat (byte : Byte) : (byte.toNat : Int) / (2 : Int) = ((byte >>> 1).toNat : Nat) := by
  rw [BitVec.toNat_ushiftRight, Nat.shiftRight_eq_div_pow]
  omega

theorem next_state :
    processor.state.jump (processor.state.ip + 1) = (processor.goto (processor.ip + 1#12)).state := by
  have one : BitVec.ofInt 12 (processor.state.ip + 1) = processor.ip + 1#12 := by
    apply BitVec.eq_of_toNat_eq
    simp only [state, BitVec.toNat_ofInt, BitVec.toNat_add, BitVec.toNat_ofNat]
    omega
  rw [jump_state, one]

theorem back_state : (processor.goto (processor.ip + 1#12)).state.jump
    ((processor.goto (processor.ip + 1#12)).state.ip - 1) = processor.state := by
  have same : BitVec.ofInt 12 ((processor.goto (processor.ip + 1#12)).state.ip - 1) = processor.ip := by
    apply BitVec.eq_of_toNat_eq
    simp only [state, goto, BitVec.toNat_ofInt, BitVec.toNat_add, BitVec.toNat_ofNat]
    omega
  rw [jump_state, same]
  rfl

theorem goto_state (address : BitVec 12) : processor.state.jump address.toNat = (processor.goto address).state := by
  have same : BitVec.ofInt 12 (address.toNat : Int) = address := by
    rw [BitVec.ofInt_natCast, BitVec.ofNat_toNat, BitVec.setWidth_eq]
  rw [jump_state, same]

theorem branch_state (condition : Bool) (address : BitVec 12) :
    (if condition then processor.state.jump address.toNat else processor.state) =
      (processor.goto (if condition then address else processor.ip)).state := by
  cases condition with
  | false => rfl
  | true => exact processor.goto_state address

end Processor

open Processor

variable {depth : Nat}

theorem execute_state (processor : Processor depth) (bus : Bus) (word : Word) :
    word.instruction.execute (processor.state.jump (processor.state.ip + 1)) bus =
      .ok ((processor.perform bus.ram word).1.state,
        { bus with ram := (processor.perform bus.ram word).2
                   log := bus.log ++ processor.accesses bus.ram word }) := by
  have inside : dataAddress word.dataTarget.toNat = (word.setWidth 10).toNat :=
    dataAddress_of_lt word.dataTarget.isLt
  rw [next_state]
  unfold Word.instruction perform accesses
  rw [Word.opcode_eq, Word.register1_eq, Word.register2_eq, Word.chained_eq, Word.flags_eq]
  -- One case for each row of the table; all rows start at the next address.
  cases word.operation with
  | hlt =>
    simp only [Instruction.execute, Instruction.transition, back_state, Except.map, List.append_nil]
    rfl
  | add =>
    simp only [Instruction.execute, Instruction.transition, sumOf_state, settle_state, set_result, read_goto,
      Except.map, List.append_nil]
    rfl
  | sub =>
    simp only [Instruction.execute, Instruction.transition, differenceOf_state, settle_state, set_result,
      read_goto, Except.map, List.append_nil]
    rfl
  | cmp =>
    simp only [Instruction.execute, Instruction.transition, differenceOf_state, settle_state, read_goto,
      Except.map, List.append_nil]
    rfl
  | nand =>
    simp only [Instruction.execute, Instruction.transition, get_state, nand_toNat, storeTested_state, read_goto,
      Except.map, List.append_nil]
    rfl
  | shr =>
    simp only [Instruction.execute, Instruction.transition, get_state, halve_toNat, storeTested_state, read_goto,
      Except.map, List.append_nil]
    rfl
  | stb | clb | ret =>
    simp only [Instruction.execute, Instruction.transition, pop_state, Except.map, List.append_nil]
    rfl
  | ldi =>
    simp only [Instruction.execute, Instruction.transition, Except.map, set_state, ofInt_byte, List.append_nil]
    rfl
  | lod =>
    simp only [Instruction.execute, Bus.read, Bus.peek, inside, set_state, ofInt_byte]
    rfl
  | str =>
    simp only [Instruction.execute, Bus.write, Bus.peek, inside, get_state, Bus.load, read_goto, ofInt_byte]
    rfl
  | jmp =>
    simp only [Instruction.execute, Instruction.transition, Except.map, goto_state, List.append_nil]
    rfl
  | jc | jz =>
    simp only [Instruction.execute, Instruction.transition, Except.map, branch_state, List.append_nil]
    rfl
  | call =>
    have pushed := (processor.goto (processor.ip + 1#12)).push_state (processor.ip + 1#12)
    change Except.map _ (State.push _ (processor.ip + 1#12).toNat >>= _) = _
    rw [pushed]
    simp only [bind, Except.bind, pure, Except.pure, Except.map, goto_state, List.append_nil]
    rfl

def Machine.word (machine : Machine) : Word := machine.bus.rom.words[machine.state.ip.toNat]?.getD 0

/-- A cycle is the row of the word that it fetches. -/
theorem Machine.step_state {machine : Machine} {processor : Processor depth} (same : processor.state = machine.state)
    (running : machine.state.halted = false) :
    machine.step =
      (.ok {
        state := (processor.perform machine.bus.ram machine.word).1.state
        word := some machine.word
        cycles := machine.cycles + 1
        symbol := some (machine.symbolText machine.state.ip machine.word)
        accesses := .fetch machine.state.ip.toNat machine.word ::
          processor.accesses machine.bus.ram machine.word },
      { machine with
        bus := { ram := (processor.perform machine.bus.ram machine.word).2, rom := machine.bus.rom }
        state := (processor.perform machine.bus.ram machine.word).1.state
        cycles := machine.cycles + 1 }) := by
  have inside : programAddress machine.state.ip = machine.state.ip.toNat := by
    rw [← same]
    exact programAddress_of_lt processor.ip.isLt
  have fetched : machine.bus.peekWord machine.state.ip = machine.word := by
    rw [Bus.peekWord, Rom.wordAt, inside, word]
  unfold step fetch Bus.fetch
  rw [if_neg (by simp [running])]
  dsimp only
  rw [show machine.bus.clearLog.peekWord machine.state.ip = machine.word from fetched, inside, ← same,
    execute_state]
  rfl

end HarvardBench
