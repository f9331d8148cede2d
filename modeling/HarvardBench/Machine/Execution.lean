import HarvardBench.Isa.Instruction
import HarvardBench.Machine.Arithmetic
import HarvardBench.Machine.State
import HarvardBench.Memory.Bus

/-! The effect of one instruction on the state and the bus.

The instruction pointer is taken to name the next instruction already. An
instruction that fails has no effect.
-/

set_option autoImplicit false

namespace HarvardBench.Instruction

def settle (state : State) (outcome : Arithmetic.Outcome) : State :=
  { state with flags := ⟨outcome.carry, outcome.zero⟩ }

def storeTested (state : State) (target : Register) (result : Int) : State :=
  { state.set target result with flags := { state.flags with zero := result == 0 } }

def sumOf (state : State) (target source : Register) (chained : Bool) : Arithmetic.Outcome :=
  Arithmetic.add (state.get target) (state.get source) (chained && state.flags.carry)

def differenceOf (state : State) (left right : Register) (chained : Bool) : Arithmetic.Outcome :=
  Arithmetic.sub (state.get left) (state.get right) (chained && state.flags.carry)

def transition (state : State) : Instruction → Except State.Fault State
  | hlt => .ok { state.jump (state.ip - 1) with halted := true }
  | add target source chained =>
    let outcome := sumOf state target source chained
    .ok ((settle state outcome).set target outcome.result)
  | sub target source chained =>
    let outcome := differenceOf state target source chained
    .ok ((settle state outcome).set target outcome.result)
  | cmp left right chained => .ok (settle state (differenceOf state left right chained))
  | nand target source =>
    .ok (storeTested state target (Arithmetic.nand (state.get target) (state.get source)))
  | shr target => .ok (storeTested state target (state.get target / 2))
  | stb named => .ok { state with flags := state.flags.raise named }
  | clb named => .ok { state with flags := state.flags.lower named }
  | ldi target value => .ok (state.set target value.toNat)
  | jmp target => .ok (state.jump target.toNat)
  | jc target => .ok (if state.flags.carry then state.jump target.toNat else state)
  | jz target => .ok (if state.flags.zero then state.jump target.toNat else state)
  | call target => do
    let pushed ← state.push state.ip
    return pushed.jump target.toNat
  | ret => do
    let (address, popped) ← state.pop
    return { popped with ip := address }
  | lod .. | str .. => .ok state

def execute (instruction : Instruction) (state : State) (bus : Bus) : Except State.Fault (State × Bus) :=
  match instruction with
  | lod target address =>
    let (byte, bus) := bus.read address.toNat
    .ok (state.set target byte.toNat, bus)
  | str source address => .ok (state, bus.write address.toNat (state.get source))
  | other => (transition state other).map fun next => (next, bus)

end HarvardBench.Instruction
