import HarvardBench.Debugging.Breakpoint
import HarvardBench.Debugging.History

/-! Stepping, rewinding and running a machine.

Rewinding restores the state and the data memory; the cycle count goes on.
-/

set_option autoImplicit false

namespace HarvardBench

structure Debugger where
  machine : Machine
  history : History
  breakpoints : List Breakpoint := []
  /-- The state before the latest step. -/
  previous : State
  last : Option Snapshot := none
  deriving DecidableEq, Repr

namespace Debugger

def defaultBudget : Nat := 100000

def defaultLimit : Nat := 1000

def create (machine : Machine) (limit : Option Int) : Except History.SetupError Debugger :=
  (History.create limit machine.state).map fun history =>
    { machine, history, previous := machine.state }

/-- Change the machine without the debugger's notice. -/
def withMachine (debugger : Debugger) (machine : Machine) : Debugger := { debugger with machine }

def addBreakpoint (debugger : Debugger) (breakpoint : Breakpoint) : Debugger :=
  if breakpoint ∈ debugger.breakpoints then debugger
  else { debugger with breakpoints := debugger.breakpoints ++ [breakpoint] }

def updateBreakpoint (debugger : Debugger) (old new : Breakpoint) : Debugger :=
  { debugger with breakpoints := replaceFirst old new debugger.breakpoints }

def removeBreakpoint (debugger : Debugger) (breakpoint : Breakpoint) : Debugger :=
  { debugger with breakpoints := debugger.breakpoints.erase breakpoint }

def clearHistory (debugger : Debugger) : Debugger :=
  let state := debugger.machine.state
  { debugger with history := debugger.history.clear state, previous := state, last := none }

/-- Take a snapshot into the history, unless nothing was executed. -/
def remember (debugger : Debugger) (snapshot : Snapshot) : Debugger :=
  let debugger := { debugger with last := some snapshot }
  match snapshot.word with
  | some _ => { debugger with history := debugger.history.push snapshot }
  | none => debugger

def step (debugger : Debugger) : Except State.Fault Snapshot × Debugger :=
  let before := debugger.machine.state
  let (outcome, machine) := debugger.machine.step
  let debugger := { debugger with machine, previous := before }
  match outcome with
  | .error fault => (.error fault, debugger)
  | .ok snapshot => (.ok snapshot, debugger.remember snapshot)

def back (debugger : Debugger) : Option Snapshot × Debugger :=
  match debugger.history.pop? with
  | none => (none, debugger)
  | some (undone, history) =>
    let bus := debugger.machine.bus.undo undone.accesses
    let machine := { debugger.machine with bus, state := history.current }
    (history.last?, { debugger with machine, history, last := history.last? })

def stopsHere (debugger : Debugger) : Bool :=
  debugger.breakpoints.any fun breakpoint => breakpoint.stopsAt debugger.machine.state.ip

def stopsAfter (debugger : Debugger) (snapshot : Snapshot) : Bool :=
  debugger.breakpoints.any fun breakpoint => breakpoint.stopsAfter debugger.previous snapshot

/-- Continue a run that has executed some instructions already. -/
def runFrom (executed : Nat) : Nat → Debugger → Except State.Fault Nat × Debugger
  | 0, debugger => (.ok executed, debugger)
  | budget + 1, debugger =>
    if debugger.machine.state.halted || (0 < executed && debugger.stopsHere) then
      (.ok executed, debugger)
    else
      match debugger.step with
      | (.error fault, debugger) => (.error fault, debugger)
      | (.ok snapshot, debugger) =>
        if snapshot.state.halted || debugger.stopsAfter snapshot then
          (.ok (executed + 1), debugger)
        else runFrom (executed + 1) budget debugger

/-- Execute until the machine halts, a condition holds or the budget is spent. A condition
on the instruction pointer does not hold up the first instruction. -/
def run (debugger : Debugger) (budget : Int) : Except State.Fault Nat × Debugger :=
  runFrom 0 budget.toNat debugger

end Debugger

end HarvardBench
