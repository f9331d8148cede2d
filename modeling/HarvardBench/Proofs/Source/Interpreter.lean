import HarvardBench.Machine.Execution
import HarvardBench.Proofs.Assembly.Codes
import HarvardBench.Proofs.Machine.WellFormed
import HarvardBench.Proofs.Success

/-! An interpreter of source texts.

It knows statements and labels, but no words, no program memory and no label table with
addresses. Its instruction pointer is the index of a statement, and a branch to a label
goes to the first statement that is not above the label.
-/

set_option autoImplicit false

namespace HarvardBench.Source

open Assembly Text

/-- A branch to a label, or an instruction that has values as operands. -/
inductive Statement where
  | branch (operation : Opcode) (label : String)
  | plain (instruction : Instruction)
  deriving DecidableEq, Repr

/-- Read a code. A branch whose operand is a name that is free to be a label keeps the label. -/
def Statement.ofCode (code : List Char) : Except Failure Statement :=
  match operationOf? code with
  | some operation =>
    if operation.format = .programAddress ∧ isName (operandsOf code) ∧ !isReserved (operandsOf code) then
      .ok (.branch operation (String.ofList (operandsOf code)))
    else (instruction code).map .plain
  | none => (instruction code).map .plain

structure Program where
  statements : List (Nat × Statement)
  labels : Table String Nat
  deriving DecidableEq, Repr

/-- The processor and the data memory, as far as statements see them. -/
structure Process where
  state : State
  ram : Ram
  deriving DecidableEq, Repr

/-- Where a program starts that is put in the place of another: nothing is left but the
content of the call stack. -/
def Process.start (callStack : List Int) (ramSize : Nat) : Process where
  state := { callStack }
  ram := .zeroed ramSize

namespace Program

def coded (lines : List (List Char)) : List (List Char × Nat) :=
  lines.zipIdx.filter fun entry => !(codeOf entry.1).isEmpty

def ofLines (lines : List (List Char)) : Except Failure Program := do
  let statements ← (coded lines).mapM fun entry =>
    (Statement.ofCode (codeOf entry.1)).map fun statement => (entry.2, statement)
  let labels := lines.zipIdx.filterMap fun entry => (labelOf? entry.1).map fun label => (label, entry.2)
  return { statements, labels }

def ofText (text : List Char) : Except Failure Program := ofLines (sourceLines text)

variable (program : Program)

/-- The index of the first statement on the line of a label or below it. Behind the last
statement it is their number. -/
def entry (label : String) : Nat :=
  match program.labels.get? label with
  | some line => program.statements.findIdx fun statement => line ≤ statement.1
  | none => program.statements.length

/-- The statement at an index of any size. Behind the last statement the program halts. -/
def statementAt (index : Int) : Statement :=
  (program.statements[programAddress index]?.map Prod.snd).getD (.plain .hlt)

def branchTo (state : State) (operation : Opcode) (index : Nat) : Except State.Fault State :=
  match operation with
  | .jc => .ok (if state.flags.carry then state.jump index else state)
  | .jz => .ok (if state.flags.zero then state.jump index else state)
  | .call => (state.push state.ip).map fun pushed => pushed.jump index
  | _ => .ok (state.jump index)

def execute (process : Process) : Statement → Except State.Fault Process
  | .branch operation label =>
    (branchTo process.state operation (program.entry label)).map fun state => { process with state }
  | .plain (.lod target address) =>
    .ok { process with state := process.state.set target (process.ram.byteAt address.toNat).toNat }
  | .plain (.str source address) =>
    .ok { process with ram := process.ram.put address.toNat (BitVec.ofInt 8 (process.state.get source)) }
  | .plain instruction =>
    (instruction.transition process.state).map fun state => { process with state }

def step (process : Process) : Except State.Fault Process :=
  if process.state.halted then .ok process
  else
    program.execute { process with state := process.state.jump (process.state.ip + 1) }
      (program.statementAt process.state.ip)

def run : Nat → Process → Except State.Fault Process
  | 0, process => .ok process
  | count + 1, process => do run count (← program.step process)

/-! While the stack pointer is on the call stack, every statement succeeds and keeps it there. -/

theorem branchTo_of_onStack {state : State} (onStack : state.OnStack) (operation : Opcode) (index : Nat) :
    ∃ next, branchTo state operation index = .ok next ∧ next.OnStack := by
  have either (condition : Bool) : (if condition then state.jump index else state).OnStack := by
    cases condition <;> exact onStack
  cases operation with
  | jc => exact ⟨_, rfl, either state.flags.carry⟩
  | jz => exact ⟨_, rfl, either state.flags.zero⟩
  | call =>
    obtain ⟨pushed, success, kept, _⟩ := onStack.push state.ip
    exact ⟨pushed.jump index, map_eq_ok_iff.mpr ⟨pushed, success, rfl⟩, kept⟩
  | _ => exact ⟨_, rfl, onStack⟩

theorem execute_of_onStack {process : Process} (onStack : process.state.OnStack) (statement : Statement) :
    ∃ next, program.execute process statement = .ok next ∧ next.state.OnStack := by
  cases statement with
  | branch operation label =>
    obtain ⟨state, success, kept⟩ := branchTo_of_onStack onStack operation (program.entry label)
    exact ⟨{ process with state }, map_eq_ok_iff.mpr ⟨state, success, rfl⟩, kept⟩
  | plain instruction =>
    obtain ⟨state, success, kept⟩ := instruction.transition_of_onStack onStack
    have unbound : ∃ next, (instruction.transition process.state).map
        (fun state => { process with state }) = .ok next ∧ next.state.OnStack :=
      ⟨{ process with state }, map_eq_ok_iff.mpr ⟨state, success, rfl⟩, kept⟩
    cases instruction with
    | lod target address => exact ⟨_, rfl, onStack⟩
    | str source address => exact ⟨_, rfl, onStack⟩
    | _ => exact unbound

theorem step_of_onStack {process : Process} (onStack : process.state.OnStack) :
    ∃ next, program.step process = .ok next ∧ next.state.OnStack := by
  unfold step
  split
  · exact ⟨process, rfl, onStack⟩
  · let advanced : Process := { process with state := process.state.jump (process.state.ip + 1) }
    have still : advanced.state.OnStack := onStack
    exact program.execute_of_onStack still _

theorem run_of_onStack {process : Process} (count : Nat) (onStack : process.state.OnStack) :
    ∃ final, program.run count process = .ok final ∧ final.state.OnStack := by
  induction count generalizing process with
  | zero => exact ⟨process, rfl, onStack⟩
  | succ count ih =>
    obtain ⟨next, success, kept⟩ := program.step_of_onStack onStack
    obtain ⟨final, reached, last⟩ := ih kept
    exact ⟨final, bind_eq_ok_iff.mpr ⟨next, success, reached⟩, last⟩

end Program

end HarvardBench.Source
