import HarvardBench.Configuration.System
import HarvardBench.Loading

/-! A workbench session: a system, its debugger and the labels of its program.

Assembling a text or loading an image that fails leaves the session as it was.
-/

set_option autoImplicit false

namespace HarvardBench

structure Session where
  debugger : Debugger
  symbols : Symbols := []
  deriving DecidableEq, Repr

namespace Session

def defaultProgram : String :=
  "; Welcome to LCPU assembly editor!\n\njmp main\n\nmain: ; your program starts here\nhlt\n"

def ofMachine (machine : Machine) (limit : Nat) : Session :=
  let history : History := { limit, origin := machine.state }
  { debugger := { machine, history, previous := machine.state } }

def create [Host] (settings : Settings) : Except Settings.Failure Session := do
  let machine ← settings.build
  let limit := settings.historyLimit.toNat
  (checkIndex limit).mapError .capacity
  return ofMachine machine limit

def machine (session : Session) : Machine := session.debugger.machine

def withDebugger (session : Session) (debugger : Debugger) : Session := { session with debugger }

def withMachine (session : Session) (machine : Machine) : Session :=
  session.withDebugger (session.debugger.withMachine machine)

def install (session : Session) (rom : Rom) (symbols : Symbols) : Session :=
  let machine := session.machine
  { session.withMachine { machine with bus := { machine.bus with rom }, symbols } with symbols }

def clearRam (machine : Machine) : Machine :=
  { machine with bus := { machine.bus with ram := machine.bus.ram.fillWith 0 } }

def restart (session : Session) (machine : Machine) : Session :=
  session.withDebugger (session.debugger.withMachine machine).clearHistory

/-- Reset the processor; unless only it is meant, drop the call stack and the data too. -/
def reset (session : Session) (processorOnly : Bool) : Session :=
  let machine := session.machine.reset !processorOnly
  session.restart (if processorOnly then machine else clearRam machine)

/-- Assemble a text and start its program with cleared data. The content of the call
stack stays. -/
def compile (session : Session) (text : List Char) :
    Except LoadFailure (Assembly.Program × Session) := do
  let (program, rom) ← session.machine.bus.rom.loadText text
  let loaded := session.install rom program.symbols
  return (program, loaded.restart (clearRam (loaded.machine.reset false)))

/-- Load a program image and start it from scratch. It brings no labels. -/
def loadImage (session : Session) (bytes : List Byte) : Except LoadFailure Session := do
  let rom ← session.machine.bus.rom.loadImage bytes
  return (session.install rom []).reset false

def dumpImage (session : Session) : List Byte := Image.ofRom session.machine.bus.rom

/-- Some steps in a row, up to one that fails. -/
def steps : Nat → Debugger → Except State.Fault (List Snapshot) × Debugger
  | 0, debugger => (.ok [], debugger)
  | count + 1, debugger =>
    match debugger.step with
    | (.error fault, debugger) => (.error fault, debugger)
    | (.ok snapshot, debugger) =>
      match steps count debugger with
      | (.ok rest, debugger) => (.ok (snapshot :: rest), debugger)
      | (.error fault, debugger) => (.error fault, debugger)

def step (session : Session) (count : Int) : Except State.Fault (List Snapshot) × Session :=
  let (outcome, debugger) := steps count.toNat session.debugger
  (outcome, session.withDebugger debugger)

def back (session : Session) : Option Snapshot × Session :=
  let (shown, debugger) := session.debugger.back
  (shown, session.withDebugger debugger)

def run (session : Session) (budget : Int) : Except State.Fault Nat × Session :=
  let (outcome, debugger) := session.debugger.run budget
  (outcome, session.withDebugger debugger)

def status (session : Session) : Int × String :=
  let ip := session.machine.state.ip
  (ip, (session.machine.bus.peekWord ip).text session.symbols)

def pageRows : Nat := 8

def pageColumns : Nat := 16

def pageBase (session : Session) : Nat :=
  let address := programAddress session.machine.state.ip
  address - address % (pageRows * pageColumns)

def page (session : Session) : List (List Word) :=
  (List.range pageRows).map fun row => (List.range pageColumns).map fun column =>
    session.machine.bus.peekWord (session.pageBase + row * pageColumns + column : Nat)

end Session

end HarvardBench
