import HarvardBench.Proofs.Machine.Frame
import Mathlib.Data.Nat.Find
import Mathlib.Logic.Function.Iterate

/-! Calls and returns match.

The call stack is a ring: a call beyond its depth overwrites the oldest entry, and a return
below its bottom goes on at the top. The return addresses that are outstanding, as a stack
that forgets its oldest entry beyond the depth, lie on the ring below the stack pointer, the
newest one first.
-/

set_option autoImplicit false

namespace HarvardBench

/-- The place on the ring that is some entries below the newest. -/
def State.slot (state : State) (index : Nat) : Nat :=
  if index < state.sp.toNat then state.sp.toNat - 1 - index
  else state.callStack.length + state.sp.toNat - 1 - index

/-- The entries below the stack pointer are some return addresses, the newest first. -/
structure State.Backs (state : State) (held : List Int) : Prop where
  bounded : held.length ≤ state.callStack.length
  stored : ∀ index < held.length, state.callStack[state.slot index]? = held[index]?

namespace Machine

def next (machine : Machine) : Machine := machine.step.2

def operation? (machine : Machine) : Option Opcode :=
  if machine.state.halted then none else some machine.word.operation

def track (machine : Machine) (depth : Nat) (held : List Int) : List Int :=
  match machine.operation? with
  | some .call => ((machine.state.ip + 1) % 4096 :: held).take depth
  | some .ret => held.tail
  | _ => held

/-- The return addresses of a run that are outstanding after some cycles, the newest first. -/
def outstanding (machine : Machine) (depth : Nat) : Nat → List Int
  | 0 => []
  | count + 1 => (next^[count] machine).track depth (machine.outstanding depth count)

def executions (machine : Machine) (operation : Opcode) (count : Nat) : Nat :=
  (List.range count).countP fun index => (next^[index] machine).operation? == some operation

/-- How many calls more than returns the first cycles of a run execute. -/
def level (machine : Machine) (count : Nat) : Int :=
  machine.executions .call count - machine.executions .ret count

/-- A call and the return that goes with it: the first that leaves the level of the call. -/
structure Pairs (machine : Machine) (first last : Nat) : Prop where
  before : first < last
  call : (next^[first] machine).operation? = some .call
  ret : (next^[last] machine).operation? = some .ret
  inside : ∀ count, first < count → count ≤ last → machine.level first < machine.level count
  closes : machine.level (last + 1) = machine.level first

end Machine

theorem Processor.stack_cases {depth : Nat} (processor : Processor depth) (ram : Ram) (word : Word) :
    (word.operation = .call ∧
      (processor.perform ram word).1.state.callStack =
        processor.state.callStack.set processor.state.sp.toNat ((processor.state.ip + 1) % 4096) ∧
      (processor.perform ram word).1.state.sp = (processor.state.sp + 1) % processor.state.callStack.length) ∨
    (word.operation = .ret ∧
      (processor.perform ram word).1.state.callStack = processor.state.callStack ∧
      (processor.perform ram word).1.state.sp = (processor.state.sp - 1) % processor.state.callStack.length ∧
      (processor.perform ram word).1.state.ip =
        processor.state.callStack.getD (processor.perform ram word).1.state.sp.toNat 0) ∨
    (word.operation ≠ .call ∧ word.operation ≠ .ret ∧
      (processor.perform ram word).1.state.callStack = processor.state.callStack ∧
      (processor.perform ram word).1.state.sp = processor.state.sp) := by
  have frame := processor.frame_perform ram word
  -- Only a call and a return move the pointer, and only a call writes to the stack.
  by_cases call : word.operation = .call
  · refine .inl ⟨call, ?_, ?_⟩
    · unfold perform
      rw [call, ← toNat_next]
      simp [state, goto, push, Vector.toList_set, List.map_set]
    · unfold perform
      rw [call, length_callStack]
      rfl
  · by_cases ret : word.operation = .ret
    · have popped : (processor.perform ram word).1.state.sp =
          (processor.state.sp - 1) % processor.state.callStack.length := by
        unfold perform
        rw [ret, length_callStack, sp_pop]
        rfl
      refine .inr (.inl ⟨ret, frame.callStack call, popped, ?_⟩)
      rw [frame.ip, popped, Word.successor, ret]
    · exact .inr (.inr ⟨call, ret, frame.callStack call, frame.sp call ret⟩)

namespace State

theorem OnStack.turn {state : State} (onStack : state.OnStack) :
    (state.sp + 1) % state.callStack.length =
        (if state.sp + 1 = state.callStack.length then 0 else state.sp + 1) ∧
      (state.sp - 1) % state.callStack.length =
        if state.sp = 0 then (state.callStack.length : Int) - 1 else state.sp - 1 := by
  obtain ⟨low, high⟩ := onStack
  constructor
  · split
    · next top => rw [top, Int.emod_self]
    · exact Int.emod_eq_of_lt (by omega) (by omega)
  · split
    · next bottom =>
      rw [bottom, ← Int.add_emod_right]
      exact (Int.emod_eq_of_lt (by omega) (by omega)).trans (by omega)
    · exact Int.emod_eq_of_lt (by omega) (by omega)

section Ring

variable {state next : State} {held : List Int} (backs : state.Backs held) (onStack : state.OnStack)

include backs

theorem Backs.of_same (stack : next.callStack = state.callStack) (sp : next.sp = state.sp) : next.Backs held where
  bounded := stack ▸ backs.bounded
  stored := by
    intro index inside
    rw [← backs.stored index inside, slot, slot, stack, sp]

include onStack

theorem Backs.push {address : Int} (stack : next.callStack = state.callStack.set state.sp.toNat address)
    (sp : next.sp = (state.sp + 1) % state.callStack.length) :
    next.Backs ((address :: held).take state.callStack.length) := by
  have moved := sp.trans onStack.turn.1
  have length : next.callStack.length = state.callStack.length := by rw [stack, List.length_set]
  obtain ⟨low, high⟩ := onStack
  refine ⟨by rw [length]; exact List.length_take_le _ _, ?_⟩
  intro index inside
  simp only [List.length_take, List.length_cons] at inside
  rw [List.getElem?_take_of_lt (by omega), stack]
  cases index with
  | zero =>
    have newest : next.slot 0 = state.sp.toNat := by
      unfold slot
      split at moved <;> split <;> omega
    rw [newest, List.getElem?_set_self (by omega), List.getElem?_cons_zero]
  | succ index =>
    -- The newest entry but some is the newest but one less before, and is not overwritten.
    have older : next.slot (index + 1) = state.slot index := by
      unfold slot
      split at moved <;> split <;> split <;> omega
    have apart : state.sp.toNat ≠ state.slot index := by
      unfold slot
      split <;> omega
    rw [older, List.getElem?_set_ne apart, backs.stored index (by omega), List.getElem?_cons_succ]

theorem Backs.pop (stack : next.callStack = state.callStack)
    (sp : next.sp = (state.sp - 1) % state.callStack.length) : next.Backs held.tail := by
  have moved := sp.trans onStack.turn.2
  have bounded := backs.bounded
  obtain ⟨low, high⟩ := onStack
  refine ⟨by rw [stack, List.length_tail]; omega, ?_⟩
  intro index inside
  rw [List.length_tail] at inside
  have older : next.slot index = state.slot (index + 1) := by
    unfold slot
    rw [stack]
    split at moved <;> split <;> split <;> omega
  rw [older, stack, backs.stored (index + 1) (by omega), List.getElem?_tail]

theorem Backs.getD_pop {address : Int} {rest : List Int} (newest : held = address :: rest) :
    state.callStack.getD ((state.sp - 1) % state.callStack.length).toNat 0 = address := by
  have first := backs.stored 0 (by rw [newest]; exact Nat.succ_pos _)
  have moved := onStack.turn.2
  obtain ⟨low, high⟩ := onStack
  have place : ((state.sp - 1) % state.callStack.length).toNat = state.slot 0 := by
    rw [moved]
    unfold slot
    split <;> split <;> omega
  rw [List.getD_eq_getElem?_getD, place, first, newest, List.getElem?_cons_zero, Option.getD_some]

end Ring

end State

namespace Machine

variable {machine : Machine}

section Step

variable (wellFormed : machine.state.WellFormed)

include wellFormed

theorem wellFormed_next : machine.next.state.WellFormed := by
  obtain ⟨snapshot, next, success, kept⟩ := wellFormed_step wellFormed
  rw [Machine.next, success]
  exact kept

theorem exists_snapshot : ∃ snapshot, machine.step.1 = .ok snapshot ∧
    snapshot.word.map Word.operation = machine.operation? := by
  unfold operation?
  cases halted : machine.state.halted with
  | true => exact ⟨_, congrArg Prod.fst (step_of_halted halted), rfl⟩
  | false =>
    obtain ⟨processor, same⟩ := wellFormed.exists_processor
    exact ⟨_, congrArg Prod.fst (step_state same halted), rfl⟩

/-- What a cycle does to the call stack. -/
theorem next_cases :
    (machine.operation? = some .call ∧
      machine.next.state.callStack =
        machine.state.callStack.set machine.state.sp.toNat ((machine.state.ip + 1) % 4096) ∧
      machine.next.state.sp = (machine.state.sp + 1) % machine.state.callStack.length) ∨
    (machine.operation? = some .ret ∧ machine.next.state.callStack = machine.state.callStack ∧
      machine.next.state.sp = (machine.state.sp - 1) % machine.state.callStack.length ∧
      machine.next.state.ip = machine.state.callStack.getD machine.next.state.sp.toNat 0) ∨
    (machine.operation? ≠ some .call ∧ machine.operation? ≠ some .ret ∧
      machine.next.state.callStack = machine.state.callStack ∧ machine.next.state.sp = machine.state.sp) := by
  cases halted : machine.state.halted with
  | true =>
    refine .inr (.inr ?_)
    rw [operation?, if_pos halted, next, step_of_halted halted]
    exact ⟨by simp, by simp, rfl, rfl⟩
  | false =>
    obtain ⟨processor, same⟩ := wellFormed.exists_processor
    have operation : machine.operation? = some machine.word.operation :=
      if_neg (by rw [halted]; exact Bool.false_ne_true)
    have cases := processor.stack_cases machine.bus.ram machine.word
    rw [same] at cases
    rw [operation, next, step_state same halted]
    simpa only [Option.some.injEq, ne_eq] using cases

theorem length_next : machine.next.state.callStack.length = machine.state.callStack.length := by
  rcases next_cases wellFormed with ⟨_, stack, _⟩ | ⟨_, stack, _⟩ | ⟨_, _, stack, _⟩
  · rw [stack, List.length_set]
  · rw [stack]
  · rw [stack]

theorem backs_next {held : List Int} (backs : machine.state.Backs held) :
    machine.next.state.Backs (machine.track machine.state.callStack.length held) := by
  unfold track
  rcases next_cases wellFormed with ⟨call, stack, sp⟩ | ⟨ret, stack, sp, _⟩ | ⟨call, ret, stack, sp⟩
  · rw [call]
    exact backs.push wellFormed.sp stack sp
  · rw [ret]
    exact backs.pop wellFormed.sp stack sp
  · split
    · contradiction
    · contradiction
    · exact backs.of_same stack sp

theorem ip_next {held : List Int} (backs : machine.state.Backs held) (ret : machine.operation? = some .ret)
    {address : Int} (newest : held.head? = some address) : machine.next.state.ip = address := by
  obtain ⟨rest, same⟩ := List.head?_eq_some_iff.mp newest
  rcases next_cases wellFormed with ⟨call, _⟩ | ⟨_, _, sp, ip⟩ | ⟨_, other, _⟩
  · rw [ret] at call
    cases call
  · rw [ip, sp]
    exact backs.getD_pop wellFormed.sp same
  · contradiction

end Step

theorem level_succ (machine : Machine) (count : Nat) :
    machine.level (count + 1) = machine.level count +
      match (next^[count] machine).operation? with
      | some .call => 1
      | some .ret => -1
      | _ => 0 := by
  have counted (operation : Opcode) : machine.executions operation (count + 1) =
      machine.executions operation count +
        if (next^[count] machine).operation? = some operation then 1 else 0 := by
    rw [executions, List.range_succ, List.countP_append, List.countP_singleton, executions]
    simp only [beq_iff_eq]
  rw [level, level, counted, counted]
  cases (next^[count] machine).operation? with
  | none => simp only [reduceCtorEq, if_false, Nat.add_zero, Int.add_zero]
  | some operation =>
    cases operation with
    | call | ret =>
      simp only [if_true, reduceCtorEq, if_false, Option.some.injEq]
      omega
    | _ => simp only [reduceCtorEq, if_false, Option.some.injEq, Nat.add_zero, Int.add_zero]

section Run

variable (wellFormed : machine.state.WellFormed)

include wellFormed

theorem wellFormed_iterate (count : Nat) : (next^[count] machine).state.WellFormed := by
  induction count with
  | zero => exact wellFormed
  | succ count ih =>
    rw [Function.iterate_succ_apply']
    exact wellFormed_next ih

theorem length_iterate (count : Nat) :
    (next^[count] machine).state.callStack.length = machine.state.callStack.length := by
  induction count with
  | zero => rfl
  | succ count ih =>
    rw [Function.iterate_succ_apply', length_next (wellFormed_iterate wellFormed count), ih]

/-- At every point of a run, the outstanding return addresses are the newest on the ring. -/
theorem backs_iterate (count : Nat) :
    (next^[count] machine).state.Backs (machine.outstanding machine.state.callStack.length count) := by
  induction count with
  | zero => exact ⟨Nat.zero_le _, fun index inside => absurd inside (Nat.not_lt_zero index)⟩
  | succ count ih =>
    have kept := backs_next (wellFormed_iterate wellFormed count) ih
    rw [length_iterate wellFormed] at kept
    rw [Function.iterate_succ_apply']
    exact kept

theorem sp_iterate (count : Nat) : (next^[count] machine).state.sp =
    (machine.state.sp + machine.level count) % machine.state.callStack.length := by
  induction count with
  | zero =>
    have none : machine.level 0 = 0 := rfl
    rw [none, Int.add_zero]
    exact (Int.emod_eq_of_lt wellFormed.sp.1 wellFormed.sp.2).symm
  | succ count ih =>
    have length := length_iterate wellFormed count
    rw [Function.iterate_succ_apply', level_succ]
    rcases next_cases (wellFormed_iterate wellFormed count) with
      ⟨call, _, sp⟩ | ⟨ret, _, sp, _⟩ | ⟨call, ret, _, sp⟩
    · rw [sp, call, length, ih, Int.emod_add_emod, Int.add_assoc]
    · rw [sp, ret, length, ih, Int.emod_sub_emod, ← Int.add_assoc, Int.sub_eq_add_neg]
    · rw [sp, ih]
      split
      · contradiction
      · contradiction
      · rw [Int.add_zero]

end Run

theorem exists_opening (last : Nat) (above : machine.level 0 < machine.level last) :
    ∃ first < last, machine.level first < machine.level last ∧
      ∀ count, first < count → count < last → machine.level last ≤ machine.level count := by
  have later : last ≠ 0 := by
    rintro rfl
    exact Int.lt_irrefl _ above
  let lower (count : Nat) : Prop := machine.level count < machine.level last
  have opening : lower (Nat.findGreatest lower (last - 1)) := Nat.findGreatest_spec (Nat.zero_le _) above
  have early : Nat.findGreatest lower (last - 1) ≤ last - 1 := Nat.findGreatest_le _
  refine ⟨Nat.findGreatest lower (last - 1), by omega, opening, fun count after before => ?_⟩
  exact Int.not_lt.mp (Nat.findGreatest_is_greatest after (by omega))

theorem exists_pairs {last : Nat} (ret : (next^[last] machine).operation? = some .ret)
    (covered : 0 ≤ machine.level (last + 1)) : ∃ first, machine.Pairs first last := by
  have down := machine.level_succ last
  rw [ret] at down
  dsimp only at down
  have start : machine.level 0 = 0 := rfl
  obtain ⟨first, before, lower, above⟩ := exists_opening last (show machine.level 0 < machine.level last by omega)
  -- The cycle after the opening goes up, and only a call does.
  have reaches : machine.level last ≤ machine.level (first + 1) := by
    by_cases adjacent : first + 1 = last
    · exact adjacent ▸ Int.le_refl _
    · exact above (first + 1) (Nat.lt_succ_self first) (by omega)
  have up := machine.level_succ first
  have call : (next^[first] machine).operation? = some .call := by
    by_contra other
    split at up <;> first | contradiction | omega
  rw [call] at up
  dsimp only at up
  refine ⟨first, before, call, ret, fun count after within => ?_, by omega⟩
  by_cases final : count = last
  · rw [final]
    exact lower
  · have := above count after (by omega)
    omega

theorem iterate_add (machine : Machine) (first count : Nat) :
    next^[count] (next^[first] machine) = next^[first + count] machine := by
  rw [Nat.add_comm, Function.iterate_add_apply]

/-- Up to the return of a pair, the return address of its call is below those of the calls
inside, as long as all of them fit. -/
theorem outstanding_inside {first last depth : Nat} (pairs : machine.Pairs first last)
    (fits : ∀ count, first < count → count ≤ last → machine.level count ≤ machine.level first + depth)
    (count : Nat) (within : first + (count + 1) ≤ last) :
    ∃ inner, (next^[first] machine).outstanding depth (count + 1) =
        inner ++ [((next^[first] machine).state.ip + 1) % 4096] ∧
      (inner.length : Int) + 1 = machine.level (first + (count + 1)) - machine.level first := by
  -- The return address of the outer call stays at the end of the list: the inner level is above
  -- its own all along, and the depth leaves room for what is pushed.
  induction count with
  | zero =>
    have up := machine.level_succ first
    have room := fits (first + 1) (Nat.lt_succ_self first) within
    rw [pairs.call] at up
    dsimp only at up
    refine ⟨[], ?_, ?_⟩
    · have call : ((next^[0] (next^[first] machine)).operation?) = some .call := pairs.call
      rw [outstanding, track, call]
      exact List.take_of_length_le (show 1 ≤ depth by omega)
    · simp only [List.length_nil, Nat.zero_add]
      omega
  | succ count ih =>
    obtain ⟨inner, held, length⟩ := ih (by omega)
    have change : machine.level (first + (count + 1 + 1)) = _ := machine.level_succ (first + (count + 1))
    have above := pairs.inside (first + (count + 1 + 1)) (by omega) within
    have room := fits (first + (count + 1 + 1)) (by omega) within
    rw [outstanding, held, track, iterate_add]
    split
    · next call =>
      rw [call] at change
      dsimp only at change
      refine ⟨((next^[first + (count + 1)] machine).state.ip + 1) % 4096 :: inner, ?_, ?_⟩
      · rw [List.take_of_length_le, List.cons_append]
        simp only [List.length_cons, List.length_append, List.length_nil]
        omega
      · rw [List.length_cons]
        omega
    · next ret =>
      rw [ret] at change
      dsimp only at change
      cases inner with
      | nil =>
        simp only [List.length_nil] at length
        omega
      | cons newest inner =>
        rw [List.length_cons] at length
        exact ⟨inner, rfl, by omega⟩
    · exact ⟨inner, rfl, by split at change <;> first | contradiction | omega⟩

/-- What holds of the calls and returns of a run, from any place on the ring. -/
structure CallsMatch (machine : Machine) : Prop where
  succeeds : ∀ count, ∃ snapshot, (next^[count] machine).step.1 = .ok snapshot ∧
    snapshot.word.map Word.operation = (next^[count] machine).operation?
  returns : ∀ count, (next^[count] machine).operation? = some .ret →
    ∀ address, (machine.outstanding machine.state.callStack.length count).head? = some address →
      (next^[count + 1] machine).state.ip = address
  sp : ∀ count, (next^[count] machine).state.sp =
    (machine.state.sp + machine.executions .call count - machine.executions .ret count) %
      machine.state.callStack.length
  /-- While no more calls are open than the ring holds, and none is closed that was not opened,
  a return goes behind the call that it goes with. -/
  nested : ∀ last, (next^[last] machine).operation? = some .ret →
    (∀ count ≤ last + 1, 0 ≤ machine.level count ∧ machine.level count ≤ machine.state.callStack.length) →
      (∃ first, machine.Pairs first last) ∧
      ∀ first, machine.Pairs first last →
        (next^[last + 1] machine).state.ip = ((next^[first] machine).state.ip + 1) % 4096

section Run

variable (wellFormed : machine.state.WellFormed)

include wellFormed

theorem ip_iterate_ret {count : Nat} (ret : (next^[count] machine).operation? = some .ret) {address : Int}
    (newest : (machine.outstanding machine.state.callStack.length count).head? = some address) :
    (next^[count + 1] machine).state.ip = address := by
  rw [Function.iterate_succ_apply']
  exact ip_next (wellFormed_iterate wellFormed count) (backs_iterate wellFormed count) ret newest

theorem ip_of_pairs {first last : Nat} (pairs : machine.Pairs first last)
    (fits : ∀ count, first < count → count ≤ last →
      machine.level count ≤ machine.level first + machine.state.callStack.length) :
    (next^[last + 1] machine).state.ip = ((next^[first] machine).state.ip + 1) % 4096 := by
  -- The run is taken up again at the call, where nothing is outstanding.
  have before := pairs.before
  obtain ⟨inner, held, length⟩ := machine.outstanding_inside pairs fits (last - first - 1) (by omega)
  have reach : first + (last - first - 1 + 1) = last := by omega
  have down := machine.level_succ last
  rw [pairs.ret] at down
  dsimp only at down
  have closes := pairs.closes
  rw [reach] at length
  have none : inner = [] := List.length_eq_zero_iff.mp (by omega)
  have again := wellFormed_iterate wellFormed first
  have ret : (next^[last - first - 1 + 1] (next^[first] machine)).operation? = some .ret := by
    rw [iterate_add, reach]
    exact pairs.ret
  have arrives := ip_iterate_ret again ret
    (by rw [length_iterate wellFormed, held, none]; rfl)
  rw [iterate_add, ← Nat.add_assoc, reach] at arrives
  exact arrives

/-- Calls and returns match in every run from a well-formed state. -/
theorem calls_match : machine.CallsMatch where
  succeeds := fun count => exists_snapshot (wellFormed_iterate wellFormed count)
  returns := fun _ ret _ newest => ip_iterate_ret wellFormed ret newest
  sp := by
    intro count
    rw [sp_iterate wellFormed, level, Int.add_sub_assoc]
  nested := by
    intro last ret covered
    refine ⟨machine.exists_pairs ret (covered (last + 1) (Nat.le_refl _)).1, fun first pairs => ?_⟩
    refine ip_of_pairs wellFormed pairs fun count _ within => ?_
    have lowest := covered first (by have := pairs.before; omega)
    have highest := covered count (by omega)
    omega

end Run

def caller : Machine where
  bus := { ram := .zeroed 0, rom := .filled 3 [0xD002, 0x0000, 0xE000] }
  state := { callStack := [9, 9], sp := 1 }
  depth := 2

theorem calls_match_caller : caller.state.WellFormed ∧ (next^[2] caller).state.ip = 1 := by
  have wellFormed : caller.state.WellFormed := by
    refine ⟨?_, ?_, ?_, ?_⟩ <;> decide
  exact ⟨wellFormed, (calls_match wellFormed).returns 1 (by decide +kernel) 1 (by decide +kernel)⟩

end Machine

end HarvardBench
