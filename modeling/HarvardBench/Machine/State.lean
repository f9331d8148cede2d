import HarvardBench.Isa.Register
import HarvardBench.Word

/-! The state of the processor.

A state is what a debugger may hand in: its numbers can be any integers. The
well-formed states are those with bytes in the registers, program addresses in
the instruction pointer and on the call stack, and a stack pointer on the stack.
-/

set_option autoImplicit false

namespace HarvardBench

structure State where
  ip : Int := 0
  halted : Bool := false
  registers : Registers := {}
  flags : Flags := {}
  callStack : List Int
  sp : Int := 0
  deriving DecidableEq, Repr

namespace State

def defaultDepth : Nat := 16

def initial (depth : Nat) : State := { callStack := List.replicate depth 0 }

def get (state : State) (register : Register) : Int := state.registers.get register

def set (state : State) (register : Register) (value : Int) : State :=
  { state with registers := state.registers.set register value }

def jump (state : State) (address : Int) : State := { state with ip := programAddress address }

structure WellFormed (state : State) : Prop where
  registers : ∀ value ∈ state.registers.toList, 0 ≤ value ∧ value < 256
  ip : 0 ≤ state.ip ∧ state.ip < programSpan
  callStack : ∀ entry ∈ state.callStack, 0 ≤ entry ∧ entry < programSpan
  sp : 0 ≤ state.sp ∧ state.sp < state.callStack.length

/-- The position on the call stack that an integer names; a negative one counts from the end. -/
def stackIndex? (state : State) (position : Int) : Option Nat :=
  let depth : Int := state.callStack.length
  if 0 ≤ position ∧ position < depth then some position.toNat
  else if -depth ≤ position ∧ position < 0 then some (position + depth).toNat
  else none

/-- What can stop an instruction: a stack pointer outside the stack, or no stack at all. -/
inductive Fault where
  | stackIndex
  | emptyStack
  deriving DecidableEq, Repr

/-- Put a return address on the stack. Beyond the depth the oldest entry is overwritten. -/
def push (state : State) (address : Int) : Except Fault State :=
  match state.stackIndex? state.sp with
  | none => .error .stackIndex
  | some index => .ok
    { state with
      callStack := state.callStack.set index address
      sp := (state.sp + 1) % state.callStack.length }

/-- Take the latest return address off the stack. Below the bottom it wraps to the end. -/
def pop (state : State) : Except Fault (Int × State) :=
  if state.callStack.isEmpty then .error .emptyStack
  else
    let sp := (state.sp - 1) % state.callStack.length
    .ok (state.callStack.getD sp.toNat 0, { state with sp := sp })

theorem wellFormed_initial {depth : Nat} (positive : 0 < depth) : (initial depth).WellFormed where
  registers := by simp [initial, Registers.toList]
  ip := by simp [initial, programSpan]
  callStack := by
    intro entry member
    have := List.eq_of_mem_replicate (show entry ∈ List.replicate depth (0 : Int) from member)
    subst this
    simp [programSpan]
  sp := by simpa [initial] using positive

end State

/-- The parts of a state that a condition can watch. They are the parts of a state of its own: what
every object of a program has besides (its class, its methods, the table of its fields) is not
listed, and a condition on the name of such a thing never holds. -/
inductive Attribute where
  | x | y | z | ip | stackPointer | halted | registers | flags | callStack
  deriving DecidableEq, Repr

namespace Attribute

def all : List Attribute :=
  [x, y, z, ip, stackPointer, halted, registers, flags, callStack]

def name : Attribute → String
  | x => "x"
  | y => "y"
  | z => "z"
  | ip => "ip"
  | stackPointer => "call_sp"
  | halted => "halted"
  | registers => "registers"
  | flags => "flags"
  | callStack => "call_stack"

def ofName? (text : String) : Option Attribute := all.find? fun part => part.name == text

inductive Content where
  | number (value : Int)
  | truth (value : Bool)
  | registers (value : Registers)
  | flags (value : Flags)
  | stack (value : List Int)
  deriving DecidableEq, Repr

def read (state : State) : Attribute → Content
  | x => .number state.registers.x
  | y => .number state.registers.y
  | z => .number state.registers.z
  | ip => .number state.ip
  | stackPointer => .number state.sp
  | halted => .truth state.halted
  | registers => .registers state.registers
  | flags => .flags state.flags
  | callStack => .stack state.callStack

/-- A truth value equals zero or one; a compound content equals no number. -/
def Content.hasValue (content : Content) (value : Int) : Bool :=
  match content with
  | .number own => own == value
  | .truth own => (if own then 1 else 0) == value
  | .registers _ | .flags _ | .stack _ => false

end Attribute

end HarvardBench
