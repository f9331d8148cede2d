import HarvardBench.Debugging.Debugger
import HarvardBench.Proofs.Machine.WellFormed
import HarvardBench.Proofs.Memory.Undo
import Mathlib.Logic.Function.Iterate
import Mathlib.Order.Bounds.Basic

/-! A run is steps, up to the first that ends it.

What ends a run is said of one step: it fails, it halts the machine, it meets a condition or it
arrives at one. The run tests these at different places of its loop, and still ends after
the first step that one of them holds of, or with its budget.
-/

set_option autoImplicit false

namespace HarvardBench

theorem Attribute.ofName?_eq_some_iff {text : String} {part : Attribute} :
    ofName? text = some part ↔ text = part.name := by
  constructor
  · intro found
    have named := List.find?_some found
    exact (beq_iff_eq.mp named).symm
  · rintro rfl
    cases part <;> rfl

namespace Breakpoint

/-- A step that began in a state and left a snapshot does what a condition waits for, which
is not about the instruction pointer. -/
inductive Meets (breakpoint : Breakpoint) (before : State) (snapshot : Snapshot) : Prop where
  | read (address : Nat) (byte : Byte) (kind : breakpoint.kind = .memoryRead)
      (named : breakpoint.address = some (address : Int)) (made : Access.read address byte ∈ snapshot.accesses)
  | write (address : Nat) (byte previous : Byte) (kind : breakpoint.kind = .memoryWrite)
      (named : breakpoint.address = some (address : Int))
      (made : Access.write address byte previous ∈ snapshot.accesses)
  | value (part : Attribute) (value : Int) (kind : breakpoint.kind = .registerValue)
      (named : breakpoint.register = some part.name) (wanted : breakpoint.value = some value)
      (equal : (part.read snapshot.state).hasValue value = true)
  | change (part : Attribute) (kind : breakpoint.kind = .registerChange)
      (named : breakpoint.register = some part.name)
      (different : part.read snapshot.state ≠ part.read before)

variable {breakpoint : Breakpoint} {before : State} {snapshot : Snapshot}

theorem part?_eq_some_iff {part : Attribute} :
    breakpoint.part? = some part ↔ breakpoint.register = some part.name := by
  rw [part?, Option.bind_eq_some_iff]
  simp only [Attribute.ofName?_eq_some_iff, exists_eq_right]

theorem seesAccess_iff {kind : Access.Kind} {accesses : List Access} :
    breakpoint.seesAccess kind accesses = true ↔
      ∃ access ∈ accesses, access.kind = kind ∧ breakpoint.address = some (access.address : Int) := by
  simp only [seesAccess, List.any_eq_true, Bool.and_eq_true, beq_iff_eq]

theorem seesValue_iff {state : State} :
    breakpoint.seesValue state = true ↔ ∃ (part : Attribute) (value : Int),
      breakpoint.register = some part.name ∧ breakpoint.value = some value ∧
        (part.read state).hasValue value = true := by
  simp only [← part?_eq_some_iff]
  unfold seesValue
  constructor
  · intro seen
    split at seen
    · next part value named wanted => exact ⟨part, value, named, wanted, seen⟩
    · cases seen
  · rintro ⟨part, value, named, wanted, equal⟩
    rw [named, wanted]
    exact equal

theorem seesChange_iff {after : State} :
    breakpoint.seesChange before after = true ↔
      ∃ part : Attribute, breakpoint.register = some part.name ∧ part.read after ≠ part.read before := by
  simp only [← part?_eq_some_iff]
  unfold seesChange
  cases breakpoint.part? with
  | none => simp
  | some part => simp

theorem stopsAfter_iff :
    breakpoint.stopsAfter before snapshot = true ↔
      breakpoint.enabled = true ∧ breakpoint.Meets before snapshot := by
  rw [stopsAfter, Bool.and_eq_true]
  refine and_congr_right fun _ => ⟨fun seen => ?_, fun meets => ?_⟩
  · split at seen
    · cases seen
    · next kind =>
      obtain ⟨access, made, read, named⟩ := seesAccess_iff.mp seen
      cases access with
      | read address byte => exact .read address byte kind named made
      | fetch | write => cases read
    · next kind =>
      obtain ⟨access, made, write, named⟩ := seesAccess_iff.mp seen
      cases access with
      | write address byte previous => exact .write address byte previous kind named made
      | fetch | read => cases write
    · next kind =>
      obtain ⟨part, value, named, wanted, equal⟩ := seesValue_iff.mp seen
      exact .value part value kind named wanted equal
    · next kind =>
      obtain ⟨part, named, different⟩ := seesChange_iff.mp seen
      exact .change part kind named different
  · cases meets with
    | read address byte kind named made =>
      rw [kind]
      exact seesAccess_iff.mpr ⟨_, made, rfl, named⟩
    | write address byte previous kind named made =>
      rw [kind]
      exact seesAccess_iff.mpr ⟨_, made, rfl, named⟩
    | value part value kind named wanted equal =>
      rw [kind]
      exact seesValue_iff.mpr ⟨part, value, named, wanted, equal⟩
    | change part kind named different =>
      rw [kind]
      exact seesChange_iff.mpr ⟨part, named, different⟩

theorem stopsAt_iff {ip : Int} :
    breakpoint.stopsAt ip = true ↔
      breakpoint.enabled = true ∧ breakpoint.kind = .ipMatch ∧ breakpoint.value = some ip := by
  simp only [stopsAt, Bool.and_eq_true, beq_iff_eq, and_assoc]

end Breakpoint

theorem Machine.state_of_step {machine next : Machine} {snapshot : Snapshot}
    (success : machine.step = (.ok snapshot, next)) : snapshot.state = next.state := by
  cases halted : machine.state.halted with
  | true =>
    rw [step_of_halted halted] at success
    cases success
    rfl
  | false => exact (step_of_running halted success).2.1

namespace Debugger

def next (debugger : Debugger) : Debugger := debugger.step.2

/-- The next step ends a run: it fails, halts the machine, meets an enabled condition or
arrives at one. -/
def Ends (debugger : Debugger) : Prop :=
  match debugger.step with
  | (.error _, _) => True
  | (.ok snapshot, reached) =>
    reached.machine.state.halted = true ∨
    ∃ breakpoint ∈ debugger.breakpoints, breakpoint.enabled = true ∧
      (breakpoint.Meets debugger.machine.state snapshot ∨
        breakpoint.kind = .ipMatch ∧ breakpoint.value = some reached.machine.state.ip)

section Remember

variable (debugger : Debugger) (snapshot : Snapshot)

@[simp] theorem machine_remember : (debugger.remember snapshot).machine = debugger.machine := by
  unfold remember
  split <;> rfl

@[simp] theorem previous_remember : (debugger.remember snapshot).previous = debugger.previous := by
  unfold remember
  split <;> rfl

@[simp] theorem breakpoints_remember : (debugger.remember snapshot).breakpoints = debugger.breakpoints := by
  unfold remember
  split <;> rfl

end Remember

section Step

variable {debugger reached : Debugger} {snapshot : Snapshot}

theorem step_kept (success : debugger.step = (.ok snapshot, reached)) :
    snapshot.state = reached.machine.state ∧ reached.previous = debugger.machine.state ∧
      reached.breakpoints = debugger.breakpoints := by
  unfold step at success
  cases stepped : debugger.machine.step with
  | mk outcome machine =>
    rw [stepped] at success
    cases outcome with
    | error fault => cases success
    | ok shown =>
      have same := Machine.state_of_step stepped
      obtain ⟨rfl, rfl⟩ := Prod.mk.inj success |>.imp Except.ok.inj id
      exact ⟨same.trans (by rw [machine_remember]), previous_remember _ _, breakpoints_remember _ _⟩

theorem ends_iff (success : debugger.step = (.ok snapshot, reached)) :
    debugger.Ends ↔
      (snapshot.state.halted || reached.stopsAfter snapshot) = true ∨ reached.stopsHere = true := by
  obtain ⟨shown, before, conditions⟩ := step_kept success
  unfold Ends stopsAfter stopsHere
  simp only [success, shown, before, conditions, Bool.or_eq_true, List.any_eq_true, Breakpoint.stopsAfter_iff,
    Breakpoint.stopsAt_iff]
  rw [or_assoc, ← exists_or]
  refine or_congr_right (exists_congr fun breakpoint => ?_)
  rw [← and_or_left, ← and_or_left]

variable {executed : Nat} (budget : Nat) (running : debugger.machine.state.halted = false)
  (passes : executed = 0 ∨ debugger.stopsHere = false)

include running passes

theorem runFrom_succ : debugger.runFrom executed (budget + 1) =
    match debugger.step with
    | (.error fault, reached) => (.error fault, reached)
    | (.ok snapshot, reached) =>
      if snapshot.state.halted || reached.stopsAfter snapshot then (.ok (executed + 1), reached)
      else reached.runFrom (executed + 1) budget := by
  have passing : ¬ (debugger.machine.state.halted || (0 < executed && debugger.stopsHere)) = true := by
    rcases passes with rfl | elsewhere
    · simp [running]
    · simp [running, elsewhere]
  exact if_neg passing

theorem runFrom_of_ends (ends : debugger.Ends) :
    debugger.runFrom executed (budget + 1) = (debugger.step.1.map fun _ => executed + 1, debugger.next) := by
  rw [runFrom_succ budget running passes, next]
  cases success : debugger.step with
  | mk outcome reached =>
    cases outcome with
    | error fault => rfl
    | ok snapshot =>
      dsimp only
      by_cases stops : (snapshot.state.halted || reached.stopsAfter snapshot) = true
      · rw [if_pos stops]
        rfl
      · -- What is left is an instruction pointer that arrives, which is tested a turn later.
        have arrives := ((ends_iff success).mp ends).resolve_left stops
        rw [if_neg stops]
        cases budget with
        | zero => rfl
        | succ budget => rw [runFrom, if_pos (by simp [arrives])]; rfl

theorem runFrom_of_not_ends (goes : ¬ debugger.Ends) :
    debugger.runFrom executed (budget + 1) = debugger.next.runFrom (executed + 1) budget ∧
      (∃ snapshot, debugger.step.1 = .ok snapshot) ∧ debugger.next.machine.state.halted = false ∧
        debugger.next.stopsHere = false := by
  rw [runFrom_succ budget running passes, next]
  cases success : debugger.step with
  | mk outcome reached =>
    cases outcome with
    | error fault => exact absurd (by simp [Ends, success]) goes
    | ok snapshot =>
      have shown := (step_kept success).1
      rw [ends_iff success, not_or, Bool.not_eq_true] at goes
      have halted := (Bool.or_eq_false_iff.mp goes.1).1
      rw [shown] at halted
      dsimp only
      rw [goes.1]
      exact ⟨rfl, ⟨snapshot, rfl⟩, halted, Bool.not_eq_true _ ▸ goes.2⟩

end Step

/-- A run that goes on takes the steps up to the first that ends it, or all that are left. -/
theorem runFrom_eq {debugger : Debugger} (executed budget : Nat)
    (running : debugger.machine.state.halted = false) (passes : executed = 0 ∨ debugger.stopsHere = false) :
    ∃ taken, IsLeast {index : Nat | index = budget ∨ (next^[index] debugger).Ends} taken ∧
      debugger.runFrom executed (budget + 1) =
        ((next^[taken] debugger).step.1.map fun _ => executed + (taken + 1), next^[taken + 1] debugger) := by
  -- The debugger is generalized, since the rest of a run is the run of the next one.
  induction budget generalizing debugger executed with
  | zero =>
    refine ⟨0, ⟨.inl rfl, fun index _ => Nat.zero_le index⟩, ?_⟩
    by_cases ends : debugger.Ends
    · exact runFrom_of_ends 0 running passes ends
    · obtain ⟨same, ⟨snapshot, success⟩, _⟩ := runFrom_of_not_ends 0 running passes ends
      rw [same, runFrom, Function.iterate_zero_apply, success]
      rfl
  | succ budget ih =>
    by_cases ends : debugger.Ends
    · exact ⟨0, ⟨.inr ends, fun index _ => Nat.zero_le index⟩, runFrom_of_ends _ running passes ends⟩
    · obtain ⟨same, _, still, elsewhere⟩ := runFrom_of_not_ends (budget + 1) running passes ends
      obtain ⟨taken, ⟨reached, least⟩, ran⟩ := ih (executed + 1) still (.inr elsewhere)
      refine ⟨taken + 1, ⟨?_, ?_⟩, ?_⟩
      · exact reached.imp (congrArg (· + 1)) id
      · intro index last
        cases index with
        | zero => exact (last.resolve_left (by omega) |> ends).elim
        | succ index => exact Nat.succ_le_succ (least (last.imp Nat.succ.inj id))
      · rw [same, ran, Nat.add_assoc executed, Nat.add_comm 1]
        rfl

theorem step_of_onStack {debugger : Debugger} (onStack : debugger.machine.state.OnStack) :
    (∃ snapshot, debugger.step.1 = .ok snapshot) ∧ debugger.next.machine.state.OnStack := by
  obtain ⟨snapshot, machine, success, kept⟩ := Machine.step_of_onStack onStack
  unfold next step
  rw [success]
  exact ⟨⟨snapshot, rfl⟩, by rw [machine_remember]; exact kept⟩

theorem onStack_iterate {debugger : Debugger} (onStack : debugger.machine.state.OnStack) (count : Nat) :
    (next^[count] debugger).machine.state.OnStack := by
  induction count with
  | zero => exact onStack
  | succ count ih =>
    rw [Function.iterate_succ_apply']
    exact (step_of_onStack ih).2

/-- What a run of a debugger does, with a budget: it takes a number of steps, and their effect is
all that it has. -/
structure RunsToEnd (debugger : Debugger) (budget : Int) (count : Nat) : Prop where
  steps : (debugger.run budget).2 = next^[count] debugger
  idle : budget ≤ 0 ∨ debugger.machine.state.halted = true → count = 0
  /-- The last step is the first that ends a run or spends the budget; there is one in any case,
  whatever holds before it. -/
  least : 0 < budget → debugger.machine.state.halted = false →
    IsLeast {index : Nat | 1 ≤ index ∧ index ≤ budget ∧
      (index = budget ∨ (next^[index - 1] debugger).Ends)} count
  reported : (debugger.run budget).1 =
    if count = 0 then .ok 0 else (next^[count - 1] debugger).step.1.map fun _ => count
  succeeds : debugger.machine.state.OnStack → (debugger.run budget).1 = .ok count

theorem run_of_idle {debugger : Debugger} {budget : Int}
    (idle : budget ≤ 0 ∨ debugger.machine.state.halted = true) : debugger.run budget = (.ok 0, debugger) := by
  unfold run
  rcases idle with spent | halted
  · rw [Int.toNat_of_nonpos spent]
    rfl
  · cases budget.toNat with
    | zero => rfl
    | succ budget => rw [runFrom, if_pos (by simp [halted])]

/-- A run is exactly as many steps as it takes to the first that ends it. -/
theorem run_to_first_end (debugger : Debugger) (budget : Int) : ∃ count, debugger.RunsToEnd budget count := by
  by_cases idle : budget ≤ 0 ∨ debugger.machine.state.halted = true
  · have still := run_of_idle idle
    refine ⟨0, congrArg Prod.snd still, fun _ => rfl, fun positive running => ?_, congrArg Prod.fst still,
      fun _ => congrArg Prod.fst still⟩
    rcases idle with spent | halted
    · omega
    · simp [running] at halted
  · obtain ⟨positive, running⟩ := not_or.mp idle
    obtain ⟨earlier, spends⟩ : ∃ earlier : Nat, budget = (earlier + 1 : Nat) :=
      ⟨(budget - 1).toNat, by omega⟩
    -- There is one step in any case, and then as many as the least index that ends the run.
    obtain ⟨taken, ⟨reached, least⟩, ran⟩ :=
      runFrom_eq 0 earlier (Bool.not_eq_true _ ▸ running) (.inl rfl)
    subst spends
    have whole : debugger.run (earlier + 1 : Nat) = _ := ran
    rw [Nat.zero_add] at whole
    have within := least (show earlier ∈ {index | index = earlier ∨ _} from .inl rfl)
    refine ⟨taken + 1, by rw [whole], fun stays => absurd stays idle, fun _ _ => ⟨?_, ?_⟩, ?_, ?_⟩
    · exact ⟨by omega, by omega, reached.imp (fun same => by rw [same]) id⟩
    · rintro index ⟨started, _, ends⟩
      have before := least (show index - 1 ∈ {index | index = earlier ∨ _} from
        ends.imp (fun same => by omega) id)
      omega
    · rw [whole]
      rfl
    · intro onStack
      obtain ⟨snapshot, success⟩ := (step_of_onStack (onStack_iterate onStack taken)).1
      rw [whole, success]
      rfl

/-- A jump to itself is taken once, although a condition waits where it is. -/
example :
    let machine : Machine :=
      { bus := { ram := .zeroed 0, rom := .filled 1 [0x8000] }, state := .initial 1, depth := 1 }
    let debugger : Debugger :=
      { machine, history := { limit := 1, origin := machine.state }, previous := machine.state
        breakpoints := [{ kind := .ipMatch, value := some 0 }] }
    (debugger.run 9).1 = .ok 1 := by
  rfl

end Debugger

end HarvardBench
