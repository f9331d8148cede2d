import HarvardBench.Proofs.Debugging.Replay
import HarvardBench.Proofs.Session.Frame

/-! Starting over leaves nothing of the past.

A session that starts over is determined by its sizes, its conditions, the program and, unless
that is dropped too, the content of its call stack. Only the log of its bus can hold more, and
nothing that is asked of the session depends on that.
-/

set_option autoImplicit false

namespace HarvardBench

/-! ## Without the log -/

def Machine.quiet (machine : Machine) : Machine := { machine with bus := machine.bus.clearLog }

def Debugger.quiet (debugger : Debugger) : Debugger := { debugger with machine := debugger.machine.quiet }

def Session.quiet (session : Session) : Session := session.withDebugger session.debugger.quiet

namespace Debugger

variable (debugger : Debugger)

theorem step_quiet : debugger.quiet.step = debugger.step := rfl

theorem back_quiet :
    debugger.quiet.back.1 = debugger.back.1 ∧ debugger.quiet.back.2.quiet = debugger.back.2.quiet := by
  have same : debugger.quiet.history.pop? = debugger.history.pop? := rfl
  unfold back
  rw [same]
  cases debugger.history.pop? with
  | none => exact ⟨rfl, rfl⟩
  | some popped =>
    dsimp only
    rw [Bus.undo_eq, Bus.undo_eq]
    exact ⟨rfl, rfl⟩

theorem runFrom_quiet (executed budget : Nat) :
    (debugger.quiet.runFrom executed budget).1 = (debugger.runFrom executed budget).1 ∧
      (debugger.quiet.runFrom executed budget).2.quiet = (debugger.runFrom executed budget).2.quiet := by
  cases budget with
  | zero => exact ⟨rfl, rfl⟩
  | succ budget =>
    have condition : debugger.quiet.stopsHere = debugger.stopsHere := rfl
    have halted : debugger.quiet.machine.state.halted = debugger.machine.state.halted := rfl
    unfold runFrom
    rw [step_quiet, condition, halted]
    split
    · exact ⟨rfl, rfl⟩
    · exact ⟨rfl, rfl⟩

theorem steps_quiet (count : Nat) :
    (Session.steps count debugger.quiet).1 = (Session.steps count debugger).1 ∧
      (Session.steps count debugger.quiet).2.quiet = (Session.steps count debugger).2.quiet := by
  cases count with
  | zero => exact ⟨rfl, rfl⟩
  | succ count => exact ⟨rfl, rfl⟩

end Debugger

namespace Session

/-! ## Questions and answers -/

/-- What a session can be asked: an action, or something that it shows. -/
inductive Operation where
  | act (action : Action)
  | status
  | page
  | labels
  | dumpImage

inductive Answer where
  | done
  | assembled (outcome : Except LoadFailure Assembly.Program)
  | loaded (outcome : Except LoadFailure Unit)
  | stepped (outcome : Except State.Fault (List Snapshot))
  | cycled (outcome : Except State.Fault Snapshot)
  | ran (outcome : Except State.Fault Nat)
  | shown (snapshot : Option Snapshot)
  | status (ip : Int) (text : String)
  | page (base : Nat) (rows : List (List Word))
  | labels (symbols : Symbols)
  | image (bytes : List Byte)

def outcome (session : Session) : Action → Answer
  | .compile text => .assembled ((session.compile text).map Prod.fst)
  | .loadImage bytes => .loaded ((session.loadImage bytes).map fun _ => ())
  | .step count => .stepped (session.step count).1
  | .back => .shown session.back.1
  | .run budget => .ran (session.run budget).1
  | .debuggerStep => .cycled session.debugger.step.1
  | .debuggerBack => .shown session.debugger.back.1
  | .debuggerRun budget => .ran (session.debugger.run budget).1
  | .cycle => .cycled session.machine.step.1
  | .reset _ | .clearHistory | .addBreakpoint _ | .updateBreakpoint .. | .removeBreakpoint _
  | .resetProcessor _ => .done

def answer (session : Session) : Operation → Answer
  | .act action => session.outcome action
  | .status => .status session.status.1 session.status.2
  | .page => .page session.pageBase session.page
  | .labels => .labels session.symbols
  | .dumpImage => .image session.dumpImage

def after (session : Session) : Operation → Session
  | .act action => session.perform action
  | .status | .page | .labels | .dumpImage => session

/-- The answers to some operations in a row, and the session after them. -/
def follow (session : Session) : List Operation → List Answer × Session
  | [] => ([], session)
  | operation :: rest =>
    let (answers, last) := (session.after operation).follow rest
    (session.answer operation :: answers, last)

/-! ## The log does not matter -/

theorem rom_quiet (session : Session) : session.quiet.machine.bus.rom = session.machine.bus.rom := rfl

theorem outcome_quiet (session : Session) (action : Action) :
    session.quiet.outcome action = session.outcome action := by
  cases action with
  | compile text =>
    rw [outcome, outcome, compile_eq, compile_eq, rom_quiet]
    cases session.machine.bus.rom.loadText text <;> rfl
  | loadImage bytes =>
    rw [outcome, outcome, loadImage_eq, loadImage_eq, rom_quiet]
    cases session.machine.bus.rom.loadImage bytes <;> rfl
  | step count => exact congrArg Answer.stepped (session.debugger.steps_quiet count.toNat).1
  | back | debuggerBack => exact congrArg Answer.shown session.debugger.back_quiet.1
  | run budget | debuggerRun budget =>
    exact congrArg Answer.ran (session.debugger.runFrom_quiet 0 budget.toNat).1
  | debuggerStep | cycle => rfl
  | reset | clearHistory | addBreakpoint | updateBreakpoint | removeBreakpoint | resetProcessor => rfl

theorem perform_quiet (session : Session) (action : Action) :
    (session.quiet.perform action).quiet = (session.perform action).quiet := by
  -- A session is quiet where its debugger is, so one law of the debugger serves each action.
  have quiet {first second : Debugger} (same : first.quiet = second.quiet) :
      (session.quiet.withDebugger first).quiet = (session.withDebugger second).quiet :=
    congrArg (Session.mk · session.symbols) same
  cases action with
  | compile text =>
    rw [perform, perform, compile_eq, compile_eq, rom_quiet]
    cases session.machine.bus.rom.loadText text <;> rfl
  | loadImage bytes =>
    rw [perform, perform, loadImage_eq, loadImage_eq, rom_quiet]
    cases session.machine.bus.rom.loadImage bytes <;> rfl
  | step count => exact quiet (session.debugger.steps_quiet count.toNat).2
  | back | debuggerBack => exact quiet session.debugger.back_quiet.2
  | run budget | debuggerRun budget => exact quiet (session.debugger.runFrom_quiet 0 budget.toNat).2
  | reset processorOnly => cases processorOnly <;> rfl
  | addBreakpoint breakpoint =>
    refine quiet ?_
    have same : session.quiet.debugger.breakpoints = session.debugger.breakpoints := rfl
    unfold Debugger.addBreakpoint
    rw [same]
    split <;> rfl
  | debuggerStep | cycle | clearHistory | updateBreakpoint | removeBreakpoint | resetProcessor => rfl

theorem answer_quiet (session : Session) (operation : Operation) :
    session.quiet.answer operation = session.answer operation := by
  cases operation with
  | act action => exact session.outcome_quiet action
  | status | page | labels | dumpImage => rfl

theorem after_quiet (session : Session) (operation : Operation) :
    (session.quiet.after operation).quiet = (session.after operation).quiet := by
  cases operation with
  | act action => exact session.perform_quiet action
  | status | page | labels | dumpImage => rfl

/-- Sessions that differ in the log only answer alike, and go on to differ in the log only. -/
theorem follow_congr {first second : Session} (same : first.quiet = second.quiet) (operations : List Operation) :
    (first.follow operations).1 = (second.follow operations).1 ∧
      (first.follow operations).2.quiet = (second.follow operations).2.quiet := by
  induction operations generalizing first second with
  | nil => exact ⟨rfl, same⟩
  | cons operation rest ih =>
    have answers : first.answer operation = second.answer operation := by
      rw [← answer_quiet, same, answer_quiet]
    have later : (first.after operation).quiet = (second.after operation).quiet := by
      rw [← after_quiet, same, after_quiet]
    obtain ⟨rest, last⟩ := ih later
    exact ⟨congrArg₂ List.cons answers rest, last⟩

/-! ## Starting over -/

/-- The numbers of cells, the depth of the call stack and the limit of the history. -/
structure Sizes where
  ram : Nat
  rom : Nat
  depth : Nat
  limit : Nat
  deriving DecidableEq, Repr

def sizes (session : Session) : Sizes where
  ram := session.machine.bus.ram.size
  rom := session.machine.bus.rom.size
  depth := session.machine.depth
  limit := session.debugger.history.limit

theorem sizes_congr {first second : Session} (same : first.debugger.setup = second.debugger.setup) :
    first.sizes = second.sizes :=
  congrArg (fun setup => (⟨setup.1.ramSize, setup.1.rom.size, setup.1.depth, setup.2⟩ : Sizes)) same

theorem sizes_install (session : Session) {rom : Rom} (sized : rom.size = session.machine.bus.rom.size)
    (symbols : Symbols) : (session.install rom symbols).sizes = session.sizes :=
  congrArg (fun size => { session.sizes with rom := size }) sized

theorem sizes_perform (session : Session) (action : Action) : (session.perform action).sizes = session.sizes := by
  rcases session.setup_perform action with ⟨_, setup⟩ | ⟨rom, symbols, sized, _, _, setup⟩
  · exact sizes_congr setup
  · have replaced : (session.perform action).sizes = (session.install rom symbols).sizes := sizes_congr setup
    exact replaced.trans (session.sizes_install sized symbols)

theorem sizes_foldl (session : Session) (actions : List Action) :
    (actions.foldl perform session).sizes = session.sizes := by
  induction actions generalizing session with
  | nil => rfl
  | cons action rest ih => exact (ih _).trans (session.sizes_perform action)

def withBreakpoints (session : Session) (breakpoints : List Breakpoint) : Session :=
  session.withDebugger { session.debugger with breakpoints }

def opening (sizes : Sizes) (breakpoints : List Breakpoint) (rom : Rom) (symbols : Symbols)
    (callStack : List Int) : Session :=
  let state : State := { callStack }
  { debugger := {
      machine := { bus := { ram := .zeroed sizes.ram, rom }, state, depth := sizes.depth, symbols }
      history := { limit := sizes.limit, origin := state }
      breakpoints
      previous := state }
    symbols }

theorem quiet_begun (session : Session) (rom : Rom) (symbols : Symbols) (hard : Bool) :
    (session.begun rom symbols hard).quiet =
      opening session.sizes session.debugger.breakpoints rom symbols
        (if hard then List.replicate session.sizes.depth 0 else session.machine.state.callStack) := by
  cases hard <;> rfl

/-- A reset with the same program drops the content of the call stack. -/
theorem quiet_reset_begun (session : Session) (rom : Rom) (symbols : Symbols) (hard : Bool) :
    ((session.begun rom symbols hard).reset false).quiet =
      opening session.sizes session.debugger.breakpoints rom symbols
        (List.replicate session.sizes.depth 0) :=
  congrArg (fun ram => opening { session.sizes with ram } session.debugger.breakpoints rom symbols
    (List.replicate session.sizes.depth 0)) (Ram.size_fillWith session.machine.bus.ram 0)

inductive Restart where
  | image (bytes : List Byte)
  | program (text : List Char)
  | programReset (text : List Char)

/-- Only a program that is put in without a reset finds the content of the call stack. -/
def Restart.keepsStack : Restart → Bool
  | program _ => true
  | image _ | programReset _ => false

def startOver (session : Session) : Restart → Except LoadFailure Session
  | .image bytes => session.loadImage bytes
  | .program text => (session.compile text).map Prod.snd
  | .programReset text => (session.compile text).map fun loaded => loaded.2.reset false

end Session

theorem Rom.loadText_congr {first second : Rom} (sized : first.size = second.size) (text : List Char) :
    first.loadText text = second.loadText text := by
  unfold loadText loadWords
  rw [sized]

theorem Rom.loadImage_congr {first second : Rom} (sized : first.size = second.size) (bytes : List Byte) :
    first.loadImage bytes = second.loadImage bytes := by
  unfold loadImage loadWords
  rw [sized]

namespace Session

/-- What a session is after it started over depends on its sizes, its conditions and, if that is
kept, the content of its call stack. -/
theorem startOver_congr {first second : Session} (sized : first.sizes = second.sizes)
    (conditions : first.debugger.breakpoints = second.debugger.breakpoints) {restart : Restart}
    (stack : restart.keepsStack = true → first.machine.state.callStack = second.machine.state.callStack) :
    (first.startOver restart).map quiet = (second.startOver restart).map quiet := by
  have room : first.machine.bus.rom.size = second.machine.bus.rom.size := congrArg Sizes.rom sized
  cases restart with
  | image bytes =>
    rw [startOver, startOver, loadImage_eq, loadImage_eq, Rom.loadImage_congr room]
    cases second.machine.bus.rom.loadImage bytes with
    | error failure => rfl
    | ok rom =>
      simp only [Except.map, quiet_begun, sized, conditions, if_true]
  | program text =>
    rw [startOver, startOver, compile_eq, compile_eq, Rom.loadText_congr room]
    cases second.machine.bus.rom.loadText text with
    | error failure => rfl
    | ok loaded =>
      simp only [Except.map, quiet_begun, sized, conditions, stack rfl]
  | programReset text =>
    rw [startOver, startOver, compile_eq, compile_eq, Rom.loadText_congr room]
    cases second.machine.bus.rom.loadText text with
    | error failure => rfl
    | ok loaded =>
      simp only [Except.map, quiet_reset_begun, sized, conditions]

/-- Two sessions of equal sizes are given the same conditions and start over in the same way.
Whatever was done to them before, if one of them succeeds then the other does, and whatever is
asked of them afterwards, they give the same answers and are left the same but for the log. -/
theorem startOver_forgets {first second : Session} (sized : first.sizes = second.sizes) (past other : List Action)
    (breakpoints : List Breakpoint) (restart : Restart)
    (stack : restart.keepsStack = true →
      (past.foldl perform first).machine.state.callStack = (other.foldl perform second).machine.state.callStack)
    {fresh : Session}
    (success : ((past.foldl perform first).withBreakpoints breakpoints).startOver restart = .ok fresh) :
    ∃ again, ((other.foldl perform second).withBreakpoints breakpoints).startOver restart = .ok again ∧
      ∀ operations, (fresh.follow operations).1 = (again.follow operations).1 ∧
        (fresh.follow operations).2.quiet = (again.follow operations).2.quiet := by
  have sizes : ((past.foldl perform first).withBreakpoints breakpoints).sizes =
      ((other.foldl perform second).withBreakpoints breakpoints).sizes :=
    (sizes_foldl first past).trans (sized.trans (sizes_foldl second other).symm)
  have same := @startOver_congr _ _ sizes rfl restart stack
  rw [success] at same
  obtain ⟨again, succeeds, quiet⟩ := map_eq_ok_iff.mp same.symm
  exact ⟨again, succeeds, follow_congr quiet.symm⟩

def strayTinySession : Session :=
  tinySession.withMachine { tinySession.machine with
    bus := { ram := ⟨#[7]⟩, rom := ⟨#[0xFFFF]⟩, log := [.read 0 7] }
    cycles := 5 }

def atStart : Breakpoint := { kind := .ipMatch, value := some 0 }

theorem startOver_forgets_tiny :
    tinySession.sizes = strayTinySession.sizes ∧
      (tinyActions.foldl perform tinySession).machine.state.callStack = strayTinySession.machine.state.callStack ∧
      ((tinyActions.foldl perform tinySession).withBreakpoints [atStart]).startOver (.program "self: call self".toList) =
        .ok (opening ⟨1, 1, 1, 1⟩ [atStart] ⟨#[0xD000]⟩ [("self", 0)] [0]) ∧
      ∃ again, (strayTinySession.withBreakpoints [atStart]).startOver (.program "self: call self".toList) = .ok again ∧
        ∀ operations,
          ((opening ⟨1, 1, 1, 1⟩ [atStart] ⟨#[0xD000]⟩ [("self", 0)] [0]).follow operations).1 =
            (again.follow operations).1 ∧
          ((opening ⟨1, 1, 1, 1⟩ [atStart] ⟨#[0xD000]⟩ [("self", 0)] [0]).follow operations).2.quiet =
            (again.follow operations).2.quiet := by
  have sized : tinySession.sizes = strayTinySession.sizes := by decide
  have stack : (tinyActions.foldl perform tinySession).machine.state.callStack =
      strayTinySession.machine.state.callStack := by decide +kernel
  have success : ((tinyActions.foldl perform tinySession).withBreakpoints [atStart]).startOver
      (.program "self: call self".toList) =
        .ok (opening ⟨1, 1, 1, 1⟩ [atStart] ⟨#[0xD000]⟩ [("self", 0)] [0]) := by decide +kernel
  exact ⟨sized, stack, success, startOver_forgets sized tinyActions [] [atStart] _ (fun _ => stack) success⟩

end Session

end HarvardBench
