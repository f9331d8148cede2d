import HarvardBench.Proofs.Machine.WellFormed

/-! Processors whose parts have their widths.

A processor has bytes in its registers, program addresses in its instruction pointer and on
its call stack, and a stack pointer on the stack. The well-formed states are the states of
processors, and what moves a state moves the processor behind it.
-/

set_option autoImplicit false

namespace HarvardBench

structure Processor (depth : Nat) where
  ip : BitVec 12
  halted : Bool
  x : Byte
  y : Byte
  z : Byte
  flags : Flags
  stack : Vector (BitVec 12) depth
  sp : Fin depth

namespace Processor

variable {depth : Nat} (processor : Processor depth)

def state : State where
  ip := processor.ip.toNat
  halted := processor.halted
  registers := ⟨processor.x.toNat, processor.y.toNat, processor.z.toNat⟩
  flags := processor.flags
  callStack := processor.stack.toList.map fun address => (address.toNat : Int)
  sp := processor.sp.val

def read : Register → Byte
  | .null => 0
  | .x => processor.x
  | .y => processor.y
  | .z => processor.z

def write (register : Register) (byte : Byte) : Processor depth :=
  match register with
  | .null => processor
  | .x => { processor with x := byte }
  | .y => { processor with y := byte }
  | .z => { processor with z := byte }

def goto (address : BitVec 12) : Processor depth := { processor with ip := address }

/-- Write a return address and go up by one, from the top to the bottom. -/
def push (address : BitVec 12) : Processor depth :=
  { processor with
    stack := processor.stack.set processor.sp address
    sp := ⟨(processor.sp + 1) % depth, Nat.mod_lt _ processor.sp.pos⟩ }

def pop : BitVec 12 × Processor depth :=
  let sp : Fin depth := ⟨(processor.sp + (depth - 1)) % depth, Nat.mod_lt _ processor.sp.pos⟩
  (processor.stack[sp], { processor with sp })

section Fields

variable (register : Register) (byte : Byte)

@[simp] theorem ip_write : (processor.write register byte).ip = processor.ip := by
  cases register <;> rfl

@[simp] theorem halted_write : (processor.write register byte).halted = processor.halted := by
  cases register <;> rfl

@[simp] theorem flags_write : (processor.write register byte).flags = processor.flags := by
  cases register <;> rfl

@[simp] theorem stack_write : (processor.write register byte).stack = processor.stack := by
  cases register <;> rfl

@[simp] theorem sp_write : (processor.write register byte).sp = processor.sp := by
  cases register <;> rfl

theorem read_write_of_ne {register other : Register} (different : other ≠ register) :
    (processor.write register byte).read other = processor.read other := by
  cases register <;> cases other <;> simp_all [write, read]

@[simp] theorem read_goto (address : BitVec 12) :
    (processor.goto address).read register = processor.read register := by
  cases register <;> rfl

end Fields

@[simp] theorem length_callStack : processor.state.callStack.length = depth := by
  simp [state]

theorem get_state (register : Register) : processor.state.get register = (processor.read register).toNat := by
  cases register <;> rfl

theorem toNat_ofInt_byte (value : Int) : ((BitVec.ofInt 8 value).toNat : Int) = value % 256 := by
  rw [BitVec.toNat_ofInt]
  omega

theorem toNat_ofInt_address (address : Int) : (BitVec.ofInt 12 address).toNat = programAddress address := by
  rw [BitVec.toNat_ofInt]
  rfl

theorem set_state (register : Register) (value : Int) :
    processor.state.set register value = (processor.write register (BitVec.ofInt 8 value)).state := by
  cases register with
  | null => rfl
  | _ => simp only [State.set, Registers.set, write, state, toNat_ofInt_byte]

theorem jump_state (address : Int) :
    processor.state.jump address = (processor.goto (BitVec.ofInt 12 address)).state := by
  simp only [State.jump, goto, state, toNat_ofInt_address]

theorem push_state (address : BitVec 12) :
    processor.state.push address.toNat = .ok (processor.push address).state := by
  have onStack := processor.sp.isLt
  have named : processor.state.stackIndex? processor.state.sp = some processor.sp.val := by
    unfold State.stackIndex?
    rw [length_callStack, if_pos (by simp [state])]
    simp [state]
  unfold State.push
  rw [named]
  simp [state, push, Vector.toList_set, List.map_set]

/-- One less, and one less than a whole turn more, are the same place on the stack. -/
theorem sp_pop : (processor.state.sp - 1) % (depth : Int) = processor.pop.2.sp.val := by
  have turn : processor.state.sp - 1 = ((processor.sp + (depth - 1) : Nat) : Int) - depth := by
    have := processor.sp.pos
    simp only [state]
    omega
  rw [turn, Int.sub_emod_right, ← Int.natCast_emod]
  rfl

theorem getD_callStack (index : Fin depth) :
    processor.state.callStack.getD index 0 = processor.stack[index].toNat := by
  simp [state, List.getD_eq_getElem?_getD]

theorem pop_state : processor.state.pop = .ok ((processor.pop.1.toNat : Int), processor.pop.2.state) := by
  have filled : ¬ processor.state.callStack.isEmpty = true := by
    have := processor.sp.pos
    rw [List.isEmpty_iff_length_eq_zero, length_callStack]
    omega
  unfold State.pop
  rw [if_neg filled, length_callStack, sp_pop]
  simp only [Int.toNat_natCast, getD_callStack]
  rfl

theorem wellFormed_state : processor.state.WellFormed where
  registers := by
    have byte (value : Byte) : 0 ≤ (value.toNat : Int) ∧ (value.toNat : Int) < 256 := by
      have := value.isLt
      omega
    exact List.forall_mem_cons.mpr ⟨byte processor.x, List.forall_mem_cons.mpr ⟨byte processor.y,
      List.forall_mem_singleton.mpr (byte processor.z)⟩⟩
  ip := by
    have := processor.ip.isLt
    simp only [state, programSpan]
    omega
  callStack := by
    intro entry member
    obtain ⟨address, _, rfl⟩ := List.mem_map.mp member
    have := address.isLt
    unfold programSpan
    omega
  sp := by
    have := processor.sp.isLt
    rw [length_callStack]
    simp only [state]
    omega

end Processor

theorem State.WellFormed.exists_processor {state : State} (wellFormed : state.WellFormed) :
    ∃ processor : Processor state.callStack.length, processor.state = state := by
  obtain ⟨bytes, address, entries, onStack⟩ := wellFormed
  simp only [Registers.toList, List.forall_mem_cons] at bytes
  have stored {value : Int} (small : 0 ≤ value ∧ value < 256) : ((BitVec.ofInt 8 value).toNat : Int) = value := by
    rw [Processor.toNat_ofInt_byte]
    omega
  have placed {value : Int} (small : 0 ≤ value ∧ value < programSpan) :
      ((BitVec.ofInt 12 value).toNat : Int) = value := by
    rw [Processor.toNat_ofInt_address]
    unfold programSpan at small
    unfold programAddress programSpan
    omega
  -- Numbers within their bounds are kept by the words that hold them.
  have kept : (state.callStack.map fun entry => ((BitVec.ofInt 12 entry).toNat : Int)) = state.callStack :=
    (List.map_congr_left fun entry member => placed (entries entry member)).trans (List.map_id _)
  refine ⟨{
    ip := BitVec.ofInt 12 state.ip
    halted := state.halted
    x := BitVec.ofInt 8 state.registers.x
    y := BitVec.ofInt 8 state.registers.y
    z := BitVec.ofInt 8 state.registers.z
    flags := state.flags
    stack := ⟨(state.callStack.map (BitVec.ofInt 12)).toArray, by simp⟩
    sp := ⟨state.sp.toNat, by omega⟩ }, ?_⟩
  have below : (state.sp.toNat : Int) = state.sp := Int.toNat_of_nonneg onStack.1
  simp only [Processor.state, stored bytes.1, stored bytes.2.1, stored bytes.2.2.1, placed address, below,
    Vector.toList_mk, List.map_map, Function.comp_def, kept]

end HarvardBench
