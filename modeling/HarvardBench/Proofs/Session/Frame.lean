import HarvardBench.Proofs.Assembly.Listing
import HarvardBench.Proofs.Debugging.History
import HarvardBench.Proofs.Session.Bounds

/-! What actions leave alone.

Executing and rewinding keep the program memory and its labels, and no action changes a size
or a limit. A program is put in only as a whole, with labels that have names.
-/

set_option autoImplicit false

namespace HarvardBench

/-- What a machine executes with, and never changes by executing. -/
structure Machine.Setup where
  ramSize : Nat
  rom : Rom
  depth : Nat
  symbols : Symbols

def Machine.setup (machine : Machine) : Machine.Setup :=
  ⟨machine.bus.ram.size, machine.bus.rom, machine.depth, machine.symbols⟩

def Debugger.setup (debugger : Debugger) : Machine.Setup × Nat :=
  (debugger.machine.setup, debugger.history.limit)

theorem Instruction.setup_execute {instruction : Instruction} {state next : State} {bus after : Bus}
    (success : instruction.execute state bus = .ok (next, after)) :
    after.ram.size = bus.ram.size ∧ after.rom = bus.rom := by
  have plain (success : (instruction.transition state).map (fun next => (next, bus)) = .ok (next, after)) :
      after.ram.size = bus.ram.size ∧ after.rom = bus.rom := by
    obtain ⟨_, _, same⟩ := map_eq_ok_iff.mp success
    obtain ⟨_, rfl⟩ := Prod.mk.inj same
    exact ⟨rfl, rfl⟩
  cases instruction with
  | lod target address =>
    obtain ⟨_, rfl⟩ := Prod.mk.inj (Except.ok.inj success)
    exact ⟨rfl, rfl⟩
  | str source address =>
    obtain ⟨_, rfl⟩ := Prod.mk.inj (Except.ok.inj success)
    exact ⟨Ram.size_put _ _ _, rfl⟩
  | _ => exact plain success

theorem Machine.setup_step (machine : Machine) : machine.step.2.setup = machine.setup := by
  cases halted : machine.state.halted with
  | true =>
    rw [step_of_halted halted]
    rfl
  | false =>
    unfold step
    rw [if_neg (by simp [halted])]
    dsimp only
    split
    · rfl
    · next state bus executed =>
      obtain ⟨ram, rom⟩ := Instruction.setup_execute executed
      exact congrArg₂ (fun size rom => (⟨size, rom, machine.depth, machine.symbols⟩ : Setup)) ram rom

theorem Machine.setup_clearRam (machine : Machine) : (Session.clearRam machine).setup = machine.setup :=
  congrArg (fun size => (⟨size, machine.bus.rom, machine.depth, machine.symbols⟩ : Setup))
    (Ram.size_fillWith machine.bus.ram 0)

namespace Debugger

variable (debugger : Debugger)

theorem setup_remember (snapshot : Snapshot) : (debugger.remember snapshot).setup = debugger.setup := by
  unfold remember
  cases snapshot.word with
  | none => rfl
  | some word => exact congrArg (debugger.machine.setup, ·) (History.limit_push _ _)

theorem setup_step : debugger.step.2.setup = debugger.setup := by
  have kept := debugger.machine.setup_step
  unfold step
  rcases stepped : debugger.machine.step with ⟨outcome, machine⟩
  rw [stepped] at kept
  cases outcome with
  | error fault => exact congrArg (·, debugger.history.limit) kept
  | ok snapshot =>
    exact (setup_remember _ snapshot).trans (congrArg (·, debugger.history.limit) kept)

theorem setup_back : debugger.back.2.setup = debugger.setup := by
  unfold back
  split
  · rfl
  · next undone rest popped =>
    obtain ⟨ram, rom⟩ := debugger.machine.bus.sizes_undo undone.accesses
    obtain ⟨latest, _, same⟩ := Option.map_eq_some_iff.mp popped
    obtain ⟨_, rfl⟩ := Prod.mk.inj same
    simp only [setup, Machine.setup, ram, rom]

theorem runFrom_keeps {holds : Debugger → Prop} (kept : ∀ debugger, holds debugger → holds debugger.step.2)
    {debugger : Debugger} (start : holds debugger) (executed budget : Nat) :
    holds (debugger.runFrom executed budget).2 := by
  induction budget generalizing debugger executed with
  | zero => exact start
  | succ budget ih =>
    have next := kept debugger start
    unfold runFrom
    split
    · exact start
    · split
      · next stepped =>
        rw [stepped] at next
        exact next
      · next stepped =>
        rw [stepped] at next
        split
        · exact next
        · exact ih next _

theorem steps_keeps {holds : Debugger → Prop} (kept : ∀ debugger, holds debugger → holds debugger.step.2)
    {debugger : Debugger} (start : holds debugger) (count : Nat) : holds (Session.steps count debugger).2 := by
  induction count generalizing debugger with
  | zero => exact start
  | succ count ih =>
    have next := kept debugger start
    unfold Session.steps
    split
    · next stepped =>
      rw [stepped] at next
      exact next
    · next stepped =>
      rw [stepped] at next
      have last := ih next
      split <;> next outcome => rw [outcome] at last; exact last

theorem setup_runFrom (executed budget : Nat) : (debugger.runFrom executed budget).2.setup = debugger.setup :=
  @runFrom_keeps (fun other => other.setup = debugger.setup)
    (fun other same => other.setup_step.trans same) debugger rfl executed budget

theorem setup_steps (count : Nat) : (Session.steps count debugger).2.setup = debugger.setup :=
  @steps_keeps (fun other => other.setup = debugger.setup)
    (fun other same => other.setup_step.trans same) debugger rfl count

end Debugger

namespace Session

variable (session : Session)

theorem setup_begun (rom : Rom) (symbols : Symbols) (hard : Bool) :
    (session.begun rom symbols hard).debugger.setup =
      ({ session.machine.setup with rom, symbols }, session.debugger.history.limit) :=
  congrArg (·, session.debugger.history.limit)
    (Machine.setup_clearRam ((session.install rom symbols).machine.reset hard))

/-- The action keeps the program of the session, or puts in another in a memory of the same
size, whose labels have names. -/
theorem setup_perform (action : Action) :
    ((session.perform action).symbols = session.symbols ∧
        (session.perform action).debugger.setup = session.debugger.setup) ∨
      ∃ rom symbols, rom.size = session.machine.bus.rom.size ∧ (∀ label ∈ symbols.keys, label ≠ "") ∧
        (session.perform action).symbols = symbols ∧
          (session.perform action).debugger.setup =
            ({ session.machine.setup with rom, symbols }, session.debugger.history.limit) := by
  -- Only a load that succeeds puts in another program; every other action keeps it.
  cases action with
  | compile text =>
    rw [perform, compile_eq]
    cases outcome : session.machine.bus.rom.loadText text with
    | error failure => exact .inl ⟨rfl, rfl⟩
    | ok loaded =>
      obtain ⟨accepted, sized⟩ := Rom.loadText_eq_ok outcome
      refine .inr ⟨loaded.2, loaded.1.symbols, sized, fun label member => ?_, rfl, session.setup_begun _ _ _⟩
      rintro rfl
      simpa [Text.isName] using (Assembly.declarable_of_accepted accepted).named _ member
  | loadImage bytes =>
    rw [perform, loadImage_eq]
    cases outcome : session.machine.bus.rom.loadImage bytes with
    | error failure => exact .inl ⟨rfl, rfl⟩
    | ok rom =>
      exact .inr ⟨rom, [], Rom.loadImage_eq_ok outcome, by simp [Table.keys], rfl, session.setup_begun _ _ _⟩
  | reset processorOnly =>
    refine .inl ⟨rfl, congrArg (·, session.debugger.history.limit) ?_⟩
    cases processorOnly with
    | true => rfl
    | false => exact Machine.setup_clearRam (session.machine.reset true)
  | step count => exact .inl ⟨rfl, session.debugger.setup_steps count.toNat⟩
  | back | debuggerBack => exact .inl ⟨rfl, session.debugger.setup_back⟩
  | run budget | debuggerRun budget => exact .inl ⟨rfl, session.debugger.setup_runFrom 0 budget.toNat⟩
  | debuggerStep => exact .inl ⟨rfl, session.debugger.setup_step⟩
  | cycle =>
    exact .inl ⟨rfl, congrArg (·, session.debugger.history.limit) session.machine.setup_step⟩
  | addBreakpoint breakpoint =>
    refine .inl ⟨rfl, ?_⟩
    simp only [perform, withDebugger, Debugger.addBreakpoint]
    split <;> rfl
  | clearHistory | updateBreakpoint | removeBreakpoint | resetProcessor => exact .inl ⟨rfl, rfl⟩

end Session

end HarvardBench
