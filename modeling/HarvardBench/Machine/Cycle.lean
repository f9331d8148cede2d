import HarvardBench.Isa.Disassembly
import HarvardBench.Machine.Execution

/-! The machine, and its cycle of fetching, decoding and executing.

A cycle that fails after its fetch keeps the log entry and the advanced
instruction pointer, and is not counted.
-/

set_option autoImplicit false

namespace HarvardBench

/-- What one cycle did. A halted machine does nothing, and then there is no word. -/
structure Snapshot where
  state : State
  word : Option Word
  cycles : Nat
  symbol : Option String
  accesses : List Access
  deriving DecidableEq, Repr

structure Machine where
  bus : Bus
  state : State
  depth : Nat
  cycles : Nat := 0
  symbols : Symbols := []
  deriving DecidableEq, Repr

namespace Machine

inductive SetupError where
  | depth
  | capacity (cause : CapacityError)
  deriving DecidableEq, Repr

def SetupError.message : SetupError → String
  | depth => "Call stack depth must be a positive integer."
  | capacity cause => cause.message

def create [Host] (bus : Bus) (depth : Option Int) : Except SetupError Machine :=
  match cellCount? depth with
  | some depth => do
    (checkCapacity depth).mapError .capacity
    return { bus, depth, state := .initial depth }
  | none => .error .depth

/-- Start over. A soft reset keeps the content of the call stack. -/
def reset (machine : Machine) (hard : Bool) : Machine :=
  let fresh := State.initial machine.depth
  { machine with
    state := if hard then fresh else { fresh with callStack := machine.state.callStack }
    cycles := 0 }

def restore (machine : Machine) (state : State) : Machine := { machine with state }

def setSymbols (machine : Machine) (symbols : Symbols) : Machine := { machine with symbols }

/-- The word at an address as text, after the label of the address if there is one. -/
def symbolText (machine : Machine) (address : Int) (word : Word) : String :=
  let text := word.text machine.symbols
  match machine.symbols.nameAt? address with
  | some name => if name.isEmpty then text else name ++ ": " ++ text
  | none => text

def fetch (machine : Machine) : Word × Machine :=
  let (word, bus) := machine.bus.clearLog.fetch machine.state.ip
  (word, { machine with bus, state := machine.state.jump (machine.state.ip + 1) })

def step (machine : Machine) : Except State.Fault Snapshot × Machine :=
  if machine.state.halted then
    (.ok ⟨machine.state, none, machine.cycles, none, []⟩,
      { machine with bus := machine.bus.clearLog })
  else
    let (word, fetched) := machine.fetch
    match word.instruction.execute fetched.state fetched.bus with
    | .error fault => (.error fault, fetched)
    | .ok (state, bus) =>
      let cycles := machine.cycles + 1
      let symbol := machine.symbolText machine.state.ip word
      (.ok ⟨state, some word, cycles, some symbol, bus.log⟩,
        { fetched with bus := bus.clearLog, state, cycles })

def disassemble (machine : Machine) (start length : Int) : Except DeviceError (List Row) :=
  machine.bus.rom.disassemble machine.symbols start length

def registerMap (machine : Machine) : List (String × Int) :=
  let state := machine.state
  [("X", state.registers.x), ("Y", state.registers.y), ("Z", state.registers.z),
    ("IP", state.ip), ("SP", state.sp)]

def flagMap (machine : Machine) : List (String × Bool) :=
  let state := machine.state
  [("C", state.flags.carry), ("Z", state.flags.zero), ("H", state.halted)]

def registerLayout : List (String × List (String × Nat)) :=
  [("General", [("X", 8), ("Y", 8), ("Z", 8)]), ("Control", [("IP", 12), ("SP", 8)])]

end Machine

end HarvardBench
