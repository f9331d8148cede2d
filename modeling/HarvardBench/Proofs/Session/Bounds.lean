import HarvardBench.Proofs.Configuration.Building
import HarvardBench.Proofs.Machine.Frame
import HarvardBench.Session

/-! What every session keeps.

Whatever is done to a session, with or without success, its numbers stay within their widths,
its memories and its call stack keep their sizes, and the same holds of all states that its
debugger remembers. So no instruction of a session ever fails.
-/

set_option autoImplicit false

namespace HarvardBench

structure State.Fits (settings : Settings) (state : State) : Prop where
  wellFormed : state.WellFormed
  depth : state.callStack.length = settings.depth

structure Machine.Fits (settings : Settings) (machine : Machine) : Prop where
  state : machine.state.Fits settings
  depth : machine.depth = settings.depth
  ram : machine.bus.ram.size = settings.ramSize
  rom : machine.bus.rom.size = settings.romSize

structure History.Fits (settings : Settings) (history : History) : Prop where
  origin : history.origin.Fits settings
  snapshots : ∀ snapshot ∈ history.snapshots, snapshot.state.Fits settings

/-- The machine of a debugger fits, and so do all states that the debugger remembers. -/
structure Debugger.Fits (settings : Settings) (debugger : Debugger) : Prop where
  machine : debugger.machine.Fits settings
  history : debugger.history.Fits settings
  previous : debugger.previous.Fits settings
  last : ∀ snapshot, debugger.last = some snapshot → snapshot.state.Fits settings

variable {settings : Settings}

namespace State

theorem fits_initial {depth : Nat} (positive : 0 < depth) (same : depth = settings.depth) :
    (initial depth).Fits settings :=
  ⟨wellFormed_initial positive, by rw [initial, List.length_replicate]; exact same⟩

theorem Fits.depth_pos {state : State} (fits : state.Fits settings) : 0 < settings.depth := by
  have onStack := fits.wellFormed.sp
  have depth := fits.depth
  omega

end State

theorem Processor.fits_state {depth : Nat} (processor : Processor depth) (same : depth = settings.depth) :
    processor.state.Fits settings :=
  ⟨processor.wellFormed_state, by rw [processor.length_callStack]; exact same⟩

theorem Bus.sizes_undo (bus : Bus) (accesses : List Access) :
    (bus.undo accesses).ram.size = bus.ram.size ∧ (bus.undo accesses).rom = bus.rom := by
  unfold undo
  induction accesses.reverse generalizing bus with
  | nil => exact ⟨rfl, rfl⟩
  | cons access rest ih =>
    rw [List.foldl_cons, (ih _).1, (ih _).2]
    cases access with
    | fetch | read => exact ⟨rfl, rfl⟩
    | write address byte previous => exact ⟨Ram.size_put _ _ _, rfl⟩

theorem Rom.size_loadWords {rom loaded : Rom} {words : List Word} (success : rom.loadWords words = .ok loaded) :
    loaded.size = rom.size := by
  unfold loadWords at success
  split at success
  · cases success
  · next fits =>
    obtain rfl := Except.ok.inj success
    exact size_filled (Nat.le_of_not_lt fits)

theorem Rom.loadText_eq_ok {rom loaded : Rom} {text : List Char} {program : Assembly.Program}
    (success : rom.loadText text = .ok (program, loaded)) :
    Assembly.assemble text = .ok program ∧ loaded.size = rom.size := by
  simp only [loadText, bind_eq_ok_iff, mapError_eq_ok_iff] at success
  obtain ⟨_, accepted, _, filled, same⟩ := success
  obtain ⟨rfl, rfl⟩ := Prod.mk.inj (Except.ok.inj same)
  exact ⟨accepted, size_loadWords filled⟩

theorem Rom.loadImage_eq_ok {rom loaded : Rom} {bytes : List Byte} (success : rom.loadImage bytes = .ok loaded) :
    loaded.size = rom.size := by
  simp only [loadImage, bind_eq_ok_iff, mapError_eq_ok_iff] at success
  obtain ⟨_, _, filled⟩ := success
  exact size_loadWords filled

namespace Machine

variable {machine : Machine} (fits : machine.Fits settings)

include fits

theorem Fits.step : ∃ snapshot next, machine.step = (.ok snapshot, next) ∧ next.Fits settings ∧
    snapshot.state.Fits settings := by
  cases halted : machine.state.halted with
  | true =>
    rw [step_of_halted halted]
    exact ⟨_, _, rfl, ⟨fits.state, fits.depth, fits.ram, fits.rom⟩, fits.state⟩
  | false =>
    obtain ⟨processor, same⟩ := fits.state.wellFormed.exists_processor
    have kept := (processor.perform machine.bus.ram machine.word).1.fits_state fits.state.depth
    have sized := (processor.frame_perform machine.bus.ram machine.word).size
    rw [step_state same halted]
    exact ⟨_, _, rfl, ⟨kept, fits.depth, by rw [sized]; exact fits.ram, fits.rom⟩, kept⟩

/-- The content of the call stack, which a soft reset keeps, fits as well. -/
theorem Fits.reset (hard : Bool) : (machine.reset hard).Fits settings := by
  have positive := fits.state.depth_pos
  have depth := fits.depth
  have fresh : (State.initial machine.depth).Fits settings := State.fits_initial (by omega) depth
  refine ⟨?_, depth, fits.ram, fits.rom⟩
  cases hard with
  | true => exact fresh
  | false =>
    have stack := fits.state.depth
    have bottom : (0 : Int) ≤ 0 ∧ 0 < (machine.state.callStack.length : Int) := by omega
    exact ⟨⟨fresh.wellFormed.registers, fresh.wellFormed.ip, fits.state.wellFormed.callStack, bottom⟩, stack⟩

theorem Fits.clearRam : (Session.clearRam machine).Fits settings :=
  ⟨fits.state, fits.depth, (congrArg _ (Ram.size_fillWith _ _)).trans fits.ram, fits.rom⟩

theorem Fits.withRom {rom : Rom} (sized : rom.size = machine.bus.rom.size) (symbols : Symbols) :
    ({ machine with bus := { machine.bus with rom }, symbols } : Machine).Fits settings :=
  ⟨fits.state, fits.depth, fits.ram, (congrArg _ sized).trans fits.rom⟩

theorem Fits.undo (accesses : List Access) {state : State} (restored : state.Fits settings) :
    ({ machine with bus := machine.bus.undo accesses, state } : Machine).Fits settings := by
  obtain ⟨ram, rom⟩ := machine.bus.sizes_undo accesses
  exact ⟨restored, fits.depth, by rw [ram]; exact fits.ram, by rw [rom]; exact fits.rom⟩

end Machine

namespace History

variable {history : History} (fits : history.Fits settings)

include fits

theorem Fits.push {snapshot : Snapshot} (shown : snapshot.state.Fits settings) :
    (history.push snapshot).Fits settings := by
  unfold History.push
  split
  · refine ⟨?_, fun other member => ?_⟩
    · -- The oldest snapshot is given up, and its end state becomes the origin.
      cases oldest : history.snapshots[0]? with
      | none => exact fits.origin
      | some first => exact fits.snapshots first (Array.mem_of_getElem? oldest)
    · rcases Array.mem_push.mp member with kept | rfl
      · rw [Array.eraseIdxIfInBounds_eq] at kept
        split at kept
        · exact fits.snapshots other (Array.mem_of_mem_eraseIdx kept)
        · exact fits.snapshots other kept
      · exact shown
  · refine ⟨fits.origin, fun other member => ?_⟩
    rcases Array.mem_push.mp member with kept | rfl
    · exact fits.snapshots other kept
    · exact shown

theorem Fits.last? {snapshot : Snapshot} (latest : history.last? = some snapshot) : snapshot.state.Fits settings :=
  fits.snapshots snapshot (Array.mem_of_back? latest)

theorem Fits.current : history.current.Fits settings := by
  unfold History.current
  cases latest : history.last? with
  | none => exact fits.origin
  | some snapshot => exact fits.last? latest

theorem Fits.pop? {undone : Snapshot} {rest : History} (popped : history.pop? = some (undone, rest)) :
    rest.Fits settings := by
  obtain ⟨latest, _, same⟩ := Option.map_eq_some_iff.mp popped
  obtain ⟨_, rfl⟩ := Prod.mk.inj same
  refine ⟨fits.origin, fun snapshot member => fits.snapshots snapshot ?_⟩
  rw [← Array.mem_toList_iff, Array.toList_pop] at member
  exact Array.mem_toList_iff.mp (List.dropLast_subset _ member)

end History

namespace Debugger

theorem fits_clearHistory {debugger : Debugger} (fits : debugger.machine.Fits settings) :
    debugger.clearHistory.Fits settings :=
  ⟨fits, ⟨fits.state, by simp [clearHistory, History.clear]⟩, fits.state, fun _ none => by cases none⟩

variable {debugger : Debugger} (fits : debugger.Fits settings)

include fits

theorem Fits.withMachine {machine : Machine} (other : machine.Fits settings) :
    (debugger.withMachine machine).Fits settings :=
  ⟨other, fits.history, fits.previous, fits.last⟩

theorem Fits.step : ∃ snapshot next, debugger.step = (.ok snapshot, next) ∧ next.Fits settings := by
  obtain ⟨snapshot, machine, success, kept, shown⟩ := fits.machine.step
  have latest : ∀ other, some snapshot = some other → other.state.Fits settings := by
    rintro other ⟨rfl⟩
    exact shown
  unfold Debugger.step remember
  rw [success]
  refine ⟨snapshot, _, rfl, ?_⟩
  split
  · exact ⟨kept, fits.history.push shown, fits.machine.state, latest⟩
  · exact ⟨kept, fits.history, fits.machine.state, latest⟩

theorem Fits.back : debugger.back.2.Fits settings := by
  unfold Debugger.back
  split
  · exact fits
  · next undone history popped =>
    have rest := fits.history.pop? popped
    exact ⟨fits.machine.undo _ rest.current, rest, fits.previous, fun _ latest => rest.last? latest⟩

theorem Fits.runFrom (executed budget : Nat) :
    ∃ count next, debugger.runFrom executed budget = (.ok count, next) ∧ next.Fits settings := by
  induction budget generalizing debugger executed with
  | zero => exact ⟨_, _, rfl, fits⟩
  | succ budget ih =>
    obtain ⟨snapshot, next, success, kept⟩ := fits.step
    unfold Debugger.runFrom
    rw [success]
    dsimp only
    split
    · exact ⟨_, _, rfl, fits⟩
    · split
      · exact ⟨_, _, rfl, kept⟩
      · exact ih kept _

theorem Fits.steps (count : Nat) :
    ∃ snapshots next, Session.steps count debugger = (.ok snapshots, next) ∧ next.Fits settings := by
  induction count generalizing debugger with
  | zero => exact ⟨_, _, rfl, fits⟩
  | succ count ih =>
    obtain ⟨snapshot, next, success, kept⟩ := fits.step
    obtain ⟨rest, final, steps, last⟩ := ih kept
    unfold Session.steps
    rw [success]
    dsimp only
    rw [steps]
    exact ⟨_, _, rfl, last⟩

end Debugger

namespace Session

/-- What a session can be told to do: its own operations, those of its debugger, and those of
its processor without the debugger's notice. Stopping a run from outside is not among them,
as one action ends before the next begins. -/
inductive Action where
  | compile (text : List Char)
  | loadImage (bytes : List Byte)
  | reset (processorOnly : Bool)
  | step (count : Int)
  | back
  | run (budget : Int)
  | debuggerStep
  | debuggerBack
  | debuggerRun (budget : Int)
  | clearHistory
  | addBreakpoint (breakpoint : Breakpoint)
  | updateBreakpoint (old new : Breakpoint)
  | removeBreakpoint (breakpoint : Breakpoint)
  | cycle
  | resetProcessor (hard : Bool)

/-- The session after an attempt to load a program; a failure leaves it as it was. -/
def settled (session : Session) : Except LoadFailure Session → Session
  | .ok loaded => loaded
  | .error _ => session

def perform (session : Session) : Action → Session
  | .compile text => session.settled ((session.compile text).map Prod.snd)
  | .loadImage bytes => session.settled (session.loadImage bytes)
  | .reset processorOnly => session.reset processorOnly
  | .step count => (session.step count).2
  | .back => session.back.2
  | .run budget => (session.run budget).2
  | .debuggerStep => session.withDebugger session.debugger.step.2
  | .debuggerBack => session.withDebugger session.debugger.back.2
  | .debuggerRun budget => session.withDebugger (session.debugger.run budget).2
  | .clearHistory => session.withDebugger session.debugger.clearHistory
  | .addBreakpoint breakpoint => session.withDebugger (session.debugger.addBreakpoint breakpoint)
  | .updateBreakpoint old new => session.withDebugger (session.debugger.updateBreakpoint old new)
  | .removeBreakpoint breakpoint => session.withDebugger (session.debugger.removeBreakpoint breakpoint)
  | .cycle => session.withMachine session.machine.step.2
  | .resetProcessor hard => session.withMachine (session.machine.reset hard)

def begun (session : Session) (rom : Rom) (symbols : Symbols) (hard : Bool) : Session :=
  let loaded := session.install rom symbols
  loaded.restart (clearRam (loaded.machine.reset hard))

theorem compile_eq (session : Session) (text : List Char) :
    session.compile text = (session.machine.bus.rom.loadText text).map fun loaded =>
      (loaded.1, session.begun loaded.2 loaded.1.symbols false) := by
  unfold compile
  cases session.machine.bus.rom.loadText text <;> rfl

theorem loadImage_eq (session : Session) (bytes : List Byte) :
    session.loadImage bytes = (session.machine.bus.rom.loadImage bytes).map fun rom =>
      session.begun rom [] true := by
  unfold loadImage
  cases session.machine.bus.rom.loadImage bytes <;> rfl

section Actions

variable {session : Session} (fits : session.debugger.Fits settings)

include fits

theorem fits_begun {rom : Rom} (sized : rom.size = session.machine.bus.rom.size) (symbols : Symbols) (hard : Bool) :
    (session.begun rom symbols hard).debugger.Fits settings :=
  Debugger.fits_clearHistory (((fits.machine.withRom sized symbols).reset hard).clearRam)

theorem fits_compile {text : List Char} {program : Assembly.Program} {loaded : Session}
    (success : session.compile text = .ok (program, loaded)) : loaded.debugger.Fits settings := by
  rw [compile_eq] at success
  obtain ⟨_, taken, same⟩ := map_eq_ok_iff.mp success
  obtain ⟨_, rfl⟩ := Prod.mk.inj same
  exact fits_begun fits (Rom.loadText_eq_ok taken).2 _ _

theorem fits_reset (processorOnly : Bool) : (session.reset processorOnly).debugger.Fits settings := by
  have fresh := fits.machine.reset !processorOnly
  refine Debugger.fits_clearHistory ?_
  cases processorOnly with
  | true => exact fresh
  | false => exact fresh.clearRam

theorem fits_loadImage {bytes : List Byte} {loaded : Session} (success : session.loadImage bytes = .ok loaded) :
    loaded.debugger.Fits settings := by
  rw [loadImage_eq] at success
  obtain ⟨_, taken, rfl⟩ := map_eq_ok_iff.mp success
  exact fits_begun fits (Rom.loadImage_eq_ok taken) _ _

theorem fits_settled {outcome : Except LoadFailure Session}
    (kept : ∀ loaded, outcome = .ok loaded → loaded.debugger.Fits settings) :
    (session.settled outcome).debugger.Fits settings := by
  cases outcome with
  | error failure => exact fits
  | ok loaded => exact kept loaded rfl

theorem fits_perform (action : Action) : (session.perform action).debugger.Fits settings := by
  have ran (budget : Int) : (session.debugger.run budget).2.Fits settings := by
    obtain ⟨count, next, success, kept⟩ := fits.runFrom 0 budget.toNat
    rw [Debugger.run, success]
    exact kept
  have stepped : session.debugger.step.2.Fits settings := by
    obtain ⟨snapshot, next, success, kept⟩ := fits.step
    rw [success]
    exact kept
  -- A load that fails leaves the session as it was, and every other action succeeds.
  cases action with
  | compile text =>
    refine fits_settled fits fun loaded success => ?_
    obtain ⟨⟨program, other⟩, compiled, rfl⟩ := map_eq_ok_iff.mp success
    exact fits_compile fits compiled
  | loadImage bytes => exact fits_settled fits fun loaded success => fits_loadImage fits success
  | reset processorOnly => exact fits_reset fits processorOnly
  | step count =>
    obtain ⟨snapshots, next, success, kept⟩ := fits.steps count.toNat
    have same : (session.perform (.step count)).debugger = next := congrArg Prod.snd success
    rw [same]
    exact kept
  | back => exact fits.back
  | debuggerBack => exact fits.back
  | run budget => exact ran budget
  | debuggerRun budget => exact ran budget
  | debuggerStep => exact stepped
  | clearHistory => exact Debugger.fits_clearHistory fits.machine
  | addBreakpoint breakpoint =>
    have kept : (session.debugger.addBreakpoint breakpoint).Fits settings := by
      unfold Debugger.addBreakpoint
      split
      · exact fits
      · exact ⟨fits.machine, fits.history, fits.previous, fits.last⟩
    exact kept
  | updateBreakpoint old new => exact ⟨fits.machine, fits.history, fits.previous, fits.last⟩
  | removeBreakpoint breakpoint => exact ⟨fits.machine, fits.history, fits.previous, fits.last⟩
  | cycle =>
    obtain ⟨snapshot, next, success, kept, _⟩ := fits.machine.step
    have same : session.machine.step.2 = next := congrArg Prod.snd success
    exact fits.withMachine (same ▸ kept)
  | resetProcessor hard => exact fits.withMachine (fits.machine.reset hard)

end Actions

theorem fits_foldl {session : Session} (fits : session.debugger.Fits settings) (actions : List Action) :
    (actions.foldl perform session).debugger.Fits settings := by
  induction actions generalizing session with
  | nil => exact fits
  | cons action rest ih => exact ih (fits_perform fits action)

end Session

namespace Settings

theorem fits_setRegisters {state final : State} (fits : state.Fits settings) {values : Table RawText Int}
    (success : setRegisters state values = .ok final) : final.Fits settings := by
  induction values generalizing state with
  | nil =>
    obtain rfl := Except.ok.inj success
    exact fits
  | cons entry rest ih =>
    obtain ⟨register, _, _, later⟩ := setRegisters_cons_eq_ok_iff.mp success
    exact ih ⟨fits.wellFormed.set register entry.2, fits.depth⟩ later

theorem fits_build [Host] {machine : Machine} (built : settings.build = .ok machine) : machine.Fits settings := by
  obtain ⟨valid, _, state, registers, rfl⟩ := build_eq_ok_iff.mp built
  obtain ⟨_, ram, rom, depth, _⟩ := validate_eq_ok_iff.mp valid
  have counted : (settings.depth.toNat : Int) = settings.depth := Int.toNat_of_nonneg (by omega)
  have fresh := State.fits_initial (by omega) counted
  have started := fits_setRegisters ⟨fresh.wellFormed.jump settings.initial.ip, fresh.depth⟩ registers
  refine ⟨⟨started.wellFormed.withFlags _, started.depth⟩, counted, ?_, ?_⟩
  · simp only [systemWith, Ram.size_fillWith, Ram.size_zeroed]
    omega
  · simp only [systemWith, Rom.size_zeroed]
    omega

end Settings

namespace Session

theorem fits_create [Host] {session : Session} (created : create settings = .ok session) :
    session.debugger.Fits settings := by
  unfold create at created
  obtain ⟨machine, built, rest⟩ := bind_eq_ok_iff.mp created
  obtain ⟨_, _, made⟩ := bind_eq_ok_iff.mp rest
  obtain rfl := Except.ok.inj made
  have fits := Settings.fits_build built
  exact ⟨fits, ⟨fits.state, by simp [ofMachine]⟩, fits.state, fun _ none => by cases none⟩

/-- The bounds of a session, and that none of its instructions fails. -/
structure InBounds (settings : Settings) (session : Session) : Prop where
  fits : session.debugger.Fits settings
  bytes : ∀ byte ∈ session.machine.bus.ram.bytes, byte.toNat < 256
  words : ∀ word ∈ session.machine.bus.rom.words, word.toNat < 65536
  cycle : ∃ snapshot, session.machine.step.1 = .ok snapshot
  step : ∀ count, ∃ snapshots, (session.step count).1 = .ok snapshots
  run : ∀ budget, ∃ count, (session.run budget).1 = .ok count
  debuggerStep : ∃ snapshot, session.debugger.step.1 = .ok snapshot

/-- Whatever is done to a session that settings describe, it keeps its bounds, and no
instruction fails. -/
theorem reachable_inBounds [Host] {session : Session} (created : create settings = .ok session)
    (actions : List Action) : (actions.foldl perform session).InBounds settings := by
  have fits := fits_foldl (fits_create created) actions
  refine ⟨fits, fun byte _ => byte.isLt, fun word _ => word.isLt, ?_, fun count => ?_, fun budget => ?_, ?_⟩
  · obtain ⟨snapshot, _, success, _⟩ := fits.machine.step
    exact ⟨snapshot, congrArg Prod.fst success⟩
  · obtain ⟨snapshots, _, success, _⟩ := fits.steps count.toNat
    exact ⟨snapshots, congrArg Prod.fst success⟩
  · obtain ⟨count, _, success, _⟩ := fits.runFrom 0 budget.toNat
    exact ⟨count, congrArg Prod.fst success⟩
  · obtain ⟨snapshot, _, success, _⟩ := fits.step
    exact ⟨snapshot, congrArg Prod.fst success⟩

def tiny : Settings where
  ramSize := 1
  romSize := 1
  depth := 1
  historyLimit := 1
  initial := { ip := -1, registers := [(.ofString "y", 300)] }

def tinySession : Session :=
  .ofMachine {
    bus := { ram := .zeroed 1, rom := .zeroed 1 }
    state := { ip := 4095, registers := { y := 44 }, callStack := [0] }
    depth := 1 } 1

def tinyActions : List Action :=
  [.compile "hlt\nhlt".toList, .compile "self: call self".toList, .step 3, .resetProcessor false, .back,
    .loadImage [0x00, 0xE0], .cycle, .run 9, .debuggerBack]

theorem reachable_inBounds_tiny :
    @create Settings.scantHost tiny = .ok tinySession ∧ (tinyActions.foldl perform tinySession).InBounds tiny :=
  have created : @create Settings.scantHost tiny = .ok tinySession := by rfl
  ⟨created, @reachable_inBounds _ Settings.scantHost _ created tinyActions⟩

end Session

end HarvardBench
