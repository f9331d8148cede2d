import HarvardBench.Machine.Cycle

/-! Well-formed states stay well-formed, and no instruction fails on them. -/

set_option autoImplicit false

namespace HarvardBench

namespace State

variable {state : State}

theorem WellFormed.set (wellFormed : state.WellFormed) (register : Register) (value : Int) :
    (state.set register value).WellFormed where
  registers := by
    have byte : 0 ≤ value % 256 ∧ value % 256 < 256 := by omega
    have kept := wellFormed.registers
    simp only [Registers.toList, List.forall_mem_cons] at kept
    cases register with
    | null => exact wellFormed.registers
    | x => simpa [State.set, Registers.set, Registers.toList] using ⟨byte, kept.2.1, kept.2.2.1⟩
    | y => simpa [State.set, Registers.set, Registers.toList] using ⟨kept.1, byte, kept.2.2.1⟩
    | z => simpa [State.set, Registers.set, Registers.toList] using ⟨kept.1, kept.2.1, byte⟩
  ip := wellFormed.ip
  callStack := wellFormed.callStack
  sp := wellFormed.sp

theorem WellFormed.jump (wellFormed : state.WellFormed) (address : Int) : (state.jump address).WellFormed where
  registers := wellFormed.registers
  ip := by
    have := programAddress_lt address
    simp only [State.jump]
    omega
  callStack := wellFormed.callStack
  sp := wellFormed.sp

theorem WellFormed.withFlags (wellFormed : state.WellFormed) (flags : Flags) :
    ({ state with flags } : State).WellFormed :=
  ⟨wellFormed.registers, wellFormed.ip, wellFormed.callStack, wellFormed.sp⟩

theorem WellFormed.halt (wellFormed : state.WellFormed) : ({ state with halted := true } : State).WellFormed :=
  ⟨wellFormed.registers, wellFormed.ip, wellFormed.callStack, wellFormed.sp⟩

/-- The stack pointer is on the stack. This is all that instructions need to succeed. -/
def OnStack (state : State) : Prop := 0 ≤ state.sp ∧ state.sp < state.callStack.length

theorem OnStack.length_pos (onStack : state.OnStack) : 0 < (state.callStack.length : Int) :=
  Int.lt_of_le_of_lt onStack.1 onStack.2

theorem OnStack.push (onStack : state.OnStack) (address : Int) :
    ∃ pushed, state.push address = .ok pushed ∧ pushed.OnStack ∧
      pushed.callStack = state.callStack.set state.sp.toNat address ∧
      pushed.registers = state.registers ∧ pushed.ip = state.ip := by
  have named : state.stackIndex? state.sp = some state.sp.toNat := if_pos onStack
  have positive := onStack.length_pos
  unfold State.push
  rw [named]
  refine ⟨_, rfl, ?_, rfl, rfl, rfl⟩
  unfold OnStack
  rw [List.length_set]
  exact ⟨Int.emod_nonneg _ (by omega), Int.emod_lt_of_pos _ positive⟩

theorem OnStack.pop (onStack : state.OnStack) :
    ∃ address popped, state.pop = .ok (address, popped) ∧ popped.OnStack ∧ address ∈ state.callStack ∧
      popped = { state with sp := popped.sp } := by
  have positive := onStack.length_pos
  have low := Int.emod_nonneg (state.sp - 1) (by omega : (state.callStack.length : Int) ≠ 0)
  have high := Int.emod_lt_of_pos (state.sp - 1) positive
  have filled : ¬ state.callStack.isEmpty = true := by
    rw [List.isEmpty_iff]
    intro none
    simp [none] at positive
  unfold State.pop
  rw [if_neg filled]
  refine ⟨_, _, rfl, ⟨low, high⟩, ?_, rfl⟩
  -- Below the bottom the pointer wraps to the end, so it names an entry either way.
  have inside : ((state.sp - 1) % (state.callStack.length : Int)).toNat < state.callStack.length := by omega
  rw [List.getD_eq_getElem?_getD, List.getElem?_eq_getElem inside, Option.getD_some]
  exact List.getElem_mem inside

theorem WellFormed.push (wellFormed : state.WellFormed) {address : Int}
    (inside : 0 ≤ address ∧ address < programSpan) :
    ∃ pushed, state.push address = .ok pushed ∧ pushed.WellFormed := by
  obtain ⟨pushed, success, onStack, stack, registers, ip⟩ := OnStack.push wellFormed.sp address
  refine ⟨pushed, success, registers ▸ wellFormed.registers, ip ▸ wellFormed.ip, ?_, onStack⟩
  intro entry member
  rw [stack] at member
  rcases List.mem_or_eq_of_mem_set member with old | rfl
  · exact wellFormed.callStack entry old
  · exact inside

theorem WellFormed.pop (wellFormed : state.WellFormed) :
    ∃ address popped, state.pop = .ok (address, popped) ∧ popped.WellFormed ∧
      0 ≤ address ∧ address < programSpan := by
  obtain ⟨address, popped, success, onStack, member, same⟩ := OnStack.pop wellFormed.sp
  refine ⟨address, popped, success, ?_, wellFormed.callStack address member⟩
  rw [same] at onStack ⊢
  exact ⟨wellFormed.registers, wellFormed.ip, wellFormed.callStack, onStack⟩

end State

theorem Instruction.transition_of_onStack {state : State} (onStack : state.OnStack) (instruction : Instruction) :
    ∃ next, instruction.transition state = .ok next ∧ next.OnStack := by
  have either (condition : Bool) (target : BitVec 12) :
      (if condition then state.jump target.toNat else state).OnStack := by
    cases condition <;> exact onStack
  cases instruction with
  | jc target => exact ⟨_, rfl, either state.flags.carry target⟩
  | jz target => exact ⟨_, rfl, either state.flags.zero target⟩
  | call target =>
    obtain ⟨pushed, success, kept, _⟩ := onStack.push state.ip
    refine ⟨pushed.jump target.toNat, ?_, kept⟩
    simp only [transition, success, bind, Except.bind, pure, Except.pure]
  | ret =>
    obtain ⟨address, popped, success, kept, _⟩ := onStack.pop
    refine ⟨{ popped with ip := address }, ?_, kept⟩
    simp only [transition, success, bind, Except.bind, pure, Except.pure]
  | _ => exact ⟨_, rfl, onStack⟩

theorem Instruction.execute_of_onStack {state : State} (onStack : state.OnStack) (instruction : Instruction)
    (bus : Bus) : ∃ next after, instruction.execute state bus = .ok (next, after) ∧ next.OnStack := by
  have plain : ∃ next after,
      (instruction.transition state).map (fun next => (next, bus)) = .ok (next, after) ∧ next.OnStack := by
    obtain ⟨next, success, kept⟩ := transition_of_onStack onStack instruction
    exact ⟨next, bus, by rw [success]; rfl, kept⟩
  cases instruction with
  | lod target address => exact ⟨_, _, rfl, onStack⟩
  | str source address => exact ⟨_, _, rfl, onStack⟩
  | _ => exact plain

theorem Machine.step_of_onStack {machine : Machine} (onStack : machine.state.OnStack) :
    ∃ snapshot next, machine.step = (.ok snapshot, next) ∧ next.state.OnStack := by
  unfold Machine.step
  by_cases halted : machine.state.halted = true
  · rw [if_pos halted]
    exact ⟨_, _, rfl, onStack⟩
  · rw [if_neg halted]
    have fetched : machine.fetch.2.state.OnStack := onStack
    obtain ⟨next, after, success, kept⟩ :=
      Instruction.execute_of_onStack fetched machine.fetch.1.instruction machine.fetch.2.bus
    dsimp only
    rw [success]
    exact ⟨_, _, rfl, kept⟩

namespace Instruction

variable {state : State} (wellFormed : state.WellFormed)

include wellFormed

theorem wellFormed_transition (instruction : Instruction) :
    ∃ next, instruction.transition state = .ok next ∧ next.WellFormed := by
  have jumps (condition : Bool) (target : BitVec 12) :
      (if condition then state.jump target.toNat else state).WellFormed := by
    cases condition with
    | false => exact wellFormed
    | true => exact wellFormed.jump target.toNat
  cases instruction with
  | hlt => exact ⟨_, rfl, (wellFormed.jump (state.ip - 1)).halt⟩
  | add target source chained | sub target source chained =>
    exact ⟨_, rfl, (wellFormed.withFlags _).set target _⟩
  | cmp left right chained => exact ⟨_, rfl, wellFormed.withFlags _⟩
  | nand target source => exact ⟨_, rfl, (wellFormed.set target _).withFlags _⟩
  | shr target => exact ⟨_, rfl, (wellFormed.set target _).withFlags _⟩
  | stb named | clb named => exact ⟨_, rfl, wellFormed.withFlags _⟩
  | ldi target value => exact ⟨_, rfl, wellFormed.set target value.toNat⟩
  | jmp target => exact ⟨_, rfl, wellFormed.jump target.toNat⟩
  | jc target => exact ⟨_, rfl, jumps state.flags.carry target⟩
  | jz target => exact ⟨_, rfl, jumps state.flags.zero target⟩
  | call target =>
    obtain ⟨pushed, success, kept⟩ := wellFormed.push wellFormed.ip
    refine ⟨pushed.jump target.toNat, ?_, kept.jump target.toNat⟩
    simp only [transition, success, bind, Except.bind, pure, Except.pure]
  | ret =>
    obtain ⟨address, popped, success, kept, inside⟩ := wellFormed.pop
    refine ⟨{ popped with ip := address }, ?_, kept.registers, inside, kept.callStack, kept.sp⟩
    simp only [transition, success, bind, Except.bind, pure, Except.pure]
  -- These two need the bus, and leave the state to `execute`.
  | lod target address | str source address => exact ⟨state, rfl, wellFormed⟩

theorem wellFormed_execute (instruction : Instruction) (bus : Bus) :
    ∃ next after, instruction.execute state bus = .ok (next, after) ∧ next.WellFormed := by
  have plain : ∃ next after,
      (instruction.transition state).map (fun next => (next, bus)) = .ok (next, after) ∧
        next.WellFormed := by
    obtain ⟨next, success, kept⟩ := wellFormed_transition wellFormed instruction
    exact ⟨next, bus, by rw [success]; rfl, kept⟩
  cases instruction with
  | lod target address => exact ⟨_, _, rfl, wellFormed.set target _⟩
  | str source address => exact ⟨_, _, rfl, wellFormed⟩
  | _ => exact plain

end Instruction

theorem Machine.wellFormed_step {machine : Machine} (wellFormed : machine.state.WellFormed) :
    ∃ snapshot next, machine.step = (.ok snapshot, next) ∧ next.state.WellFormed := by
  unfold Machine.step
  by_cases halted : machine.state.halted = true
  · rw [if_pos halted]
    exact ⟨_, _, rfl, wellFormed⟩
  · rw [if_neg halted]
    have fetched : machine.fetch.2.state.WellFormed := wellFormed.jump (machine.state.ip + 1)
    obtain ⟨next, after, success, kept⟩ :=
      Instruction.wellFormed_execute fetched machine.fetch.1.instruction machine.fetch.2.bus
    dsimp only
    rw [success]
    exact ⟨_, _, rfl, kept⟩

end HarvardBench
