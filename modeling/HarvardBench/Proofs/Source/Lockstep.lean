import HarvardBench.Proofs.Machine.WellFormed
import HarvardBench.Proofs.Source.Realization
import HarvardBench.Session

/-! The machine runs in lockstep with the interpreter of the source.

The relation between them is equality of states and data memories, together with a program
memory whose words realize the statements. One step of either keeps it, and so does any
number of steps.
-/

set_option autoImplicit false

namespace HarvardBench.Source

open Assembly

variable {program : Program}

def Holds (rom : Rom) (program : Program) : Prop :=
  ∀ index : Int, Realizes (some ∘ program.entry) (program.statementAt index)
    (rom.wordAt (programAddress index)).instruction

theorem Rom.wordAt_filled {size index : Nat} (words : List Word) :
    (Rom.filled size words).wordAt index = words[index]?.getD 0 := by
  unfold Rom.wordAt Rom.filled
  rw [List.getElem?_toArray, List.getElem?_append]
  split
  · rfl
  · next outside =>
    rw [List.getElem?_eq_none (by omega : words.length ≤ index), List.getElem?_replicate]
    split <;> rfl

theorem holds_filled {words : List Word} (size : Nat)
    (realized : List.Forall₂ (fun statement word => Realizes (some ∘ program.entry) statement.2
      (Word.instruction word)) program.statements words) : Holds (Rom.filled size words) program := by
  intro index
  unfold Program.statementAt
  rw [Rom.wordAt_filled]
  rcases getElem?_cases_of_forall₂ realized (programAddress index) with
    ⟨none, noWord⟩ | ⟨statement, word, found, stored, realizes⟩
  · rw [none, noWord]
    rfl
  · rw [found, stored]
    exact realizes

theorem transition_branch {operation : Opcode} {build : BitVec 12 → Instruction}
    (branches : operation.branching? = some build) (state : State) (index : Nat) :
    (build (BitVec.ofNat 12 index)).transition state = Program.branchTo state operation index := by
  have same (state : State) : state.jump (BitVec.ofNat 12 index).toNat = state.jump index := by
    unfold State.jump programAddress programSpan
    rw [BitVec.toNat_ofNat]
    congr 1
    omega
  cases Opcode.branches_of_branching branches with
  | call =>
    simp only [Instruction.transition, Program.branchTo, same]
    cases state.push state.ip <;> rfl
  | _ => simp only [Instruction.transition, Program.branchTo, same]

theorem execute_branch {operation : Opcode} {build : BitVec 12 → Instruction}
    (branches : operation.branching? = some build) (target : BitVec 12) (state : State) (bus : Bus) :
    (build target).execute state bus = ((build target).transition state).map fun next => (next, bus) := by
  cases Opcode.branches_of_branching branches <;> rfl

/-- An instruction on the bus does what a statement does to a process. -/
def Matches (rom : Rom) (outcome : Except State.Fault Process)
    (result : Except State.Fault (State × Bus)) : Prop :=
  match outcome with
  | .ok next => ∃ after, result = .ok (next.state, after) ∧ after.ram = next.ram ∧ after.rom = rom
  | .error fault => result = .error fault

theorem matches_map {process : Process} {bus : Bus} (shared : bus.ram = process.ram)
    (outcome : Except State.Fault State) :
    Matches bus.rom (outcome.map fun state => { process with state })
      (outcome.map fun next => (next, bus)) := by
  cases outcome with
  | error fault => rfl
  | ok state => exact ⟨bus, rfl, shared, rfl⟩

theorem execute_realized {statement : Statement} {instruction : Instruction} {process : Process} {bus : Bus}
    (realizes : Realizes (some ∘ program.entry) statement instruction) (shared : bus.ram = process.ram) :
    Matches bus.rom (program.execute process statement) (instruction.execute process.state bus) := by
  cases statement with
  | branch operation label =>
    obtain ⟨build, index, branches, entered, rfl⟩ := realizes
    obtain rfl := Option.some.inj entered
    rw [execute_branch branches, transition_branch branches]
    exact matches_map shared _
  | plain own =>
    obtain rfl : instruction = own := realizes
    -- An address in a word is within the width of the bus already.
    have inside (address : BitVec 10) : dataAddress address.toNat = address.toNat :=
      dataAddress_of_lt address.isLt
    have unbound := matches_map shared (instruction.transition process.state)
    cases instruction with
    | lod target address =>
      refine ⟨(bus.read address.toNat).2, ?_, shared, rfl⟩
      simp only [Instruction.execute, Bus.read, Bus.peek, inside, shared]
    | str source address =>
      refine ⟨bus.write address.toNat (process.state.get source), rfl, ?_, rfl⟩
      simp only [Bus.write, Bus.record, Bus.load, inside, shared]
    | _ => exact unbound

/-- The machine has the state and the memory of a process, and a program that realizes the
statements of its source. -/
structure InStep (program : Program) (machine : Machine) (process : Process) : Prop where
  state : machine.state = process.state
  ram : machine.bus.ram = process.ram
  holds : Holds machine.bus.rom program

def Together {α β : Type} (program : Program) (machineOf : β → Machine)
    (outcome : Except State.Fault Process) (result : Except State.Fault α × β) : Prop :=
  match outcome with
  | .ok process => ∃ value after, result = (.ok value, after) ∧ InStep program (machineOf after) process
  | .error fault => ∃ after, result = (.error fault, after)

theorem InStep.step {machine : Machine} {process : Process} (inStep : InStep program machine process) :
    Together program id (program.step process) machine.step := by
  unfold Program.step Machine.step
  rw [← inStep.state]
  by_cases halted : machine.state.halted = true
  · rw [if_pos halted, if_pos halted]
    exact ⟨_, _, rfl, inStep.state, inStep.ram, inStep.holds⟩
  · rw [if_neg halted, if_neg halted]
    -- Both go on by one before they execute, and the fetch leaves the memories alone.
    let advanced : Process := ⟨machine.state.jump (machine.state.ip + 1), process.ram⟩
    have shared : machine.fetch.2.bus.ram = advanced.ram := inStep.ram
    have effect := execute_realized (inStep.holds machine.state.ip) shared
    change Together program id (program.execute advanced (program.statementAt machine.state.ip)) _
    cases outcome : program.execute advanced (program.statementAt machine.state.ip) with
    | error fault =>
      rw [outcome] at effect
      have failure : machine.fetch.1.instruction.execute machine.fetch.2.state machine.fetch.2.bus =
        .error fault := effect
      dsimp only
      rw [failure]
      exact ⟨_, rfl⟩
    | ok next =>
      rw [outcome] at effect
      obtain ⟨after, success, ram, rom⟩ := effect
      have reached : machine.fetch.1.instruction.execute machine.fetch.2.state machine.fetch.2.bus =
        .ok (next.state, after) := success
      dsimp only
      rw [reached]
      refine ⟨_, _, rfl, rfl, ram, ?_⟩
      have kept : after.rom = machine.bus.rom := rom
      simpa only [Bus.clearLog, id, kept] using inStep.holds

theorem InStep.debugger_step {debugger : Debugger} {process : Process}
    (inStep : InStep program debugger.machine process) :
    Together program Debugger.machine (program.step process) debugger.step := by
  have together := inStep.step
  unfold Debugger.step
  cases outcome : program.step process with
  | error fault =>
    rw [outcome] at together
    obtain ⟨machine, failure⟩ := together
    rw [failure]
    exact ⟨_, rfl⟩
  | ok next =>
    rw [outcome] at together
    obtain ⟨snapshot, machine, success, kept⟩ := together
    rw [success]
    refine ⟨snapshot, _, rfl, ?_⟩
    unfold Debugger.remember
    cases snapshot.word with
    | none => exact kept
    | some word => exact kept

theorem InStep.steps {debugger : Debugger} {process : Process} (count : Nat)
    (inStep : InStep program debugger.machine process) :
    Together program Debugger.machine (program.run count process) (Session.steps count debugger) := by
  induction count generalizing debugger process with
  | zero => exact ⟨[], debugger, rfl, inStep⟩
  | succ count ih =>
    have together := inStep.debugger_step
    unfold Program.run Session.steps
    cases outcome : program.step process with
    | error fault =>
      rw [outcome] at together
      obtain ⟨after, failure⟩ := together
      rw [failure]
      exact ⟨after, rfl⟩
    | ok next =>
      rw [outcome] at together
      obtain ⟨snapshot, after, success, kept⟩ := together
      have rest := ih kept
      rw [success]
      change Together program Debugger.machine (program.run count next) _
      dsimp only
      -- The first step is made, and the rest run together from where it ends.
      cases final : program.run count next with
      | error fault =>
        rw [final] at rest
        obtain ⟨last, failure⟩ := rest
        rw [failure]
        exact ⟨last, rfl⟩
      | ok reached =>
        rw [final] at rest
        obtain ⟨snapshots, last, success, kept⟩ := rest
        rw [success]
        exact ⟨snapshot :: snapshots, last, rfl, kept⟩

/-- A session at the start of a program, with cleared data and the old content of the call stack. -/
def started (session : Session) (assembled : Assembly.Program) : Session :=
  let loaded := session.install (.filled session.machine.bus.rom.size assembled.words) assembled.symbols
  loaded.restart (Session.clearRam (loaded.machine.reset false))

theorem compile_eq_ok_iff {session loaded : Session} {text : List Char} {assembled : Assembly.Program} :
    session.compile text = .ok (assembled, loaded) ↔
      assemble text = .ok assembled ∧ assembled.words.length ≤ session.machine.bus.rom.size ∧
        loaded = started session assembled := by
  unfold Session.compile Rom.loadText Rom.loadWords
  simp only [bind_eq_ok_iff, mapError_eq_ok_iff]
  constructor
  · rintro ⟨⟨program, rom⟩, ⟨own, accepted, filled, loads, same⟩, built⟩
    obtain ⟨rfl, rfl⟩ := Prod.mk.inj (Except.ok.inj same)
    obtain ⟨rfl, rfl⟩ := Prod.mk.inj (Except.ok.inj built)
    split at loads
    · cases loads
    · next fits =>
      obtain rfl := Except.ok.inj loads
      exact ⟨accepted, Nat.le_of_not_lt fits, rfl⟩
  · rintro ⟨accepted, fits, rfl⟩
    refine ⟨(assembled, _), ⟨assembled, accepted, _, if_neg (Nat.not_lt_of_le fits), rfl⟩, rfl⟩

/-- For any number of steps, a session has the state and the data memory of the process that
the interpreter arrives at. Only without a call stack can they fail, and then both do. -/
def RunsAs (session : Session) (source : Program) (process : Process) : Prop :=
  ∀ count : Nat,
    match source.run count process with
    | .ok reached => ∃ snapshots after, session.step count = (.ok snapshots, after) ∧
        after.machine.state = reached.state ∧ after.machine.bus.ram = reached.ram
    | .error fault => process.state.callStack = [] ∧ (session.step count).1 = .error fault

theorem InStep.runsAs {session : Session} {process : Process}
    (inStep : InStep program session.machine process) (bottom : process.state.sp = 0) :
    RunsAs session program process := by
  intro count
  have together := inStep.steps count
  have counted : (count : Int).toNat = count := Int.toNat_natCast count
  unfold Session.step
  rw [counted]
  cases outcome : program.run count process with
  | ok reached =>
    rw [outcome] at together
    obtain ⟨snapshots, after, success, kept⟩ := together
    dsimp only
    rw [success]
    exact ⟨snapshots, _, rfl, kept.state, kept.ram⟩
  | error fault =>
    rw [outcome] at together
    obtain ⟨after, failure⟩ := together
    dsimp only
    rw [failure]
    refine ⟨?_, rfl⟩
    -- A stack pointer at the bottom of a stack with entries is on the stack.
    by_contra filled
    have onStack : process.state.OnStack := by
      unfold State.OnStack
      rw [bottom]
      exact ⟨Int.le_refl 0, by simpa using List.length_pos_iff.mpr filled⟩
    obtain ⟨final, success, _⟩ := program.run_of_onStack count onStack
    rw [outcome] at success
    cases success

/-- A compiled text runs as its source says. -/
theorem compile_lockstep {session loaded : Session} {text : List Char} {assembled : Assembly.Program}
    (compiled : session.compile text = .ok (assembled, loaded)) :
    ∃ source, Program.ofText text = .ok source ∧ source.statements.length = assembled.words.length ∧
      RunsAs loaded source
        (.start session.machine.state.callStack session.machine.bus.ram.size) := by
  obtain ⟨accepted, _, rfl⟩ := compile_eq_ok_iff.mp compiled
  obtain ⟨source, read, realized⟩ := realized_of_accepted accepted
  have inStep : InStep source (started session assembled).machine
      (.start session.machine.state.callStack session.machine.bus.ram.size) :=
    ⟨rfl, rfl, holds_filled session.machine.bus.rom.size realized⟩
  exact ⟨source, read, realized.length_eq, inStep.runsAs rfl⟩

def small : Session :=
  .ofMachine { bus := { ram := .zeroed 4, rom := .zeroed 8 }, state := .initial 2, depth := 2 } 3

def countdown : List Char :=
  "ldi x, #2\nldi y, #1\nmore: ; again\n\nsub x, y\njz done\njmp more\ndone:".toList

def countdownWords : Assembly.Program :=
  ⟨[0x5402, 0x5801, 0x2600, 0xA005, 0x8002], [("more", 2), ("done", 5)]⟩

theorem compile_lockstep_countdown :
    small.compile countdown = .ok (countdownWords, started small countdownWords) ∧
      ∃ source, Program.ofText countdown = .ok source ∧ source.statements.length = 5 ∧
        RunsAs (started small countdownWords) source (.start [0, 0] 4) :=
  have compiled : small.compile countdown = .ok (countdownWords, started small countdownWords) :=
    compile_eq_ok_iff.mpr ⟨by decide +kernel, by decide, rfl⟩
  ⟨compiled, compile_lockstep compiled⟩

end HarvardBench.Source
