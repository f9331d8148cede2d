import HarvardBench.Proofs.Machine.Table
import HarvardBench.Proofs.Memory.Undo

/-! What a cycle leaves alone.

Each part of the state and each cell of the data memory changes under the operations that
name it and under no other, and every word leads to one place. A comparison is a subtraction
that keeps its flags only.
-/

set_option autoImplicit false

namespace HarvardBench

variable {depth : Nat}

def Word.successor (word : Word) (state : State) : Int :=
  let target : Int := (word.setWidth 12).toNat
  let following := (state.ip + 1) % 4096
  match word.operation with
  | .hlt => state.ip
  | .jmp | .call => target
  | .jc => if state.flags.carry then target else following
  | .jz => if state.flags.zero then target else following
  | .ret => state.callStack.getD ((state.sp - 1) % state.callStack.length).toNat 0
  | _ => following

/-- What a word leaves alone, and where it leads. -/
structure Frame (word : Word) (before after : State) (ram stored : Ram) : Prop where
  carry : word.operation ∉ [Opcode.add, .sub, .cmp, .stb, .clb] → after.flags.carry = before.flags.carry
  zero : word.operation ∉ [Opcode.add, .sub, .cmp, .stb, .clb, .nand, .shr] →
    after.flags.zero = before.flags.zero
  raised : word.operation = .stb → ∀ flag, before.flags.get flag = true → after.flags.get flag = true
  lowered : word.operation = .clb → ∀ flag, before.flags.get flag = false → after.flags.get flag = false
  borrow : word.operation = .sub ∨ word.operation = .cmp →
    after.flags.carry = decide (before.get (word.registerAt 8) +
      (word.getLsbD 7 && before.flags.carry).toNat ≤ before.get (word.registerAt 10))
  register : ∀ register, register = .null ∨ register ≠ word.registerAt 10 ∨
    word.operation ∉ [Opcode.add, .sub, .nand, .shr, .ldi, .lod] → after.get register = before.get register
  unstored : word.operation ≠ .str → stored = ram
  size : stored.size = ram.size
  cell : ∀ index, index ≠ (word.setWidth 10).toNat → stored.byteAt index = ram.byteAt index
  callStack : word.operation ≠ .call → after.callStack = before.callStack
  sp : word.operation ≠ .call → word.operation ≠ .ret → after.sp = before.sp
  halted : word.operation ≠ .hlt → after.halted = before.halted
  halts : word.operation = .hlt → after.halted = true
  ip : after.ip = word.successor before

namespace Processor

variable (processor : Processor depth) (ram : Ram) (word : Word)

theorem read_perform_of_ne {register : Register} (other : register ≠ word.registerAt 10) :
    (processor.perform ram word).1.read register = processor.read register := by
  unfold perform
  cases word.operation with
  | add | sub | nand | shr | ldi | lod =>
    refine (read_write_of_ne _ _ other).trans ?_
    cases register <;> rfl
  | _ => cases register <;> rfl

theorem read_perform_of_not_mem (other : word.operation ∉ [Opcode.add, .sub, .nand, .shr, .ldi, .lod])
    (register : Register) : (processor.perform ram word).1.read register = processor.read register := by
  unfold perform
  cases operation : word.operation with
  | add | sub | nand | shr | ldi | lod => simp [operation] at other
  | _ => cases register <;> rfl

theorem toNat_next : ((processor.ip + 1#12).toNat : Int) = (processor.state.ip + 1) % 4096 := by
  simp only [state, BitVec.toNat_add, BitVec.toNat_ofNat]
  omega

theorem ip_perform : (processor.perform ram word).1.state.ip = word.successor processor.state := by
  have next := processor.toNat_next
  have branch (condition : Bool) :
      ((if condition then word.setWidth 12 else processor.ip + 1#12).toNat : Int) =
        if condition then ((word.setWidth 12).toNat : Int) else (processor.state.ip + 1) % 4096 := by
    cases condition with
    | false => exact next
    | true => rfl
  unfold perform Word.successor
  cases word.operation with
  | hlt | jmp | call => rfl
  | jc => exact branch processor.flags.carry
  | jz => exact branch processor.flags.zero
  | ret =>
    rw [length_callStack, sp_pop, Int.toNat_natCast, getD_callStack]
    rfl
  | add | sub | nand | shr | ldi | lod =>
    exact (congrArg (fun ip : BitVec 12 => (ip.toNat : Int)) (ip_write _ _ _)).trans next
  | _ => exact next

theorem frame_perform : Frame word processor.state (processor.perform ram word).1.state ram
    (processor.perform ram word).2 where
  carry := by
    unfold perform
    cases word.operation <;> simp [state, goto, push, pop]
  zero := by
    unfold perform
    cases word.operation <;> simp [state, goto, push, pop]
  raised := by
    intro operation flag held
    unfold perform
    rw [operation]
    cases flag <;> simp_all [Flags.get, state]
  lowered := by
    intro operation flag held
    unfold perform
    rw [operation]
    cases flag <;> simp_all [Flags.get, state]
  borrow := by
    have difference := carry_difference (processor.read (word.registerAt 10)) (processor.read (word.registerAt 8))
      (word.getLsbD 7 && processor.flags.carry)
    rw [get_state, get_state]
    rintro (operation | operation)
    · unfold perform
      rw [operation]
      simp only [state, flags_write, difference]
      norm_cast
    · unfold perform
      rw [operation]
      simp only [state, difference]
      norm_cast
  register := by
    intro register
    rw [get_state, get_state]
    rintro (rfl | other | other)
    · rfl
    · rw [read_perform_of_ne _ _ _ other]
    · rw [read_perform_of_not_mem _ _ _ other]
  unstored := by
    unfold perform
    cases word.operation <;> simp
  size := by
    unfold perform
    cases word.operation with
    | str => exact Ram.size_put ram _ _
    | _ => rfl
  cell := by
    intro index other
    unfold perform
    cases word.operation with
    | str => exact (Ram.byteAt_put ram _ index _).trans (if_neg fun both => other both.1.symm)
    | _ => rfl
  callStack := by
    unfold perform
    cases word.operation <;> simp [goto, state, pop]
  sp := by
    unfold perform
    cases word.operation <;> simp [goto, state]
  halted := by
    unfold perform
    cases word.operation <;> simp [goto, state, push, pop]
  halts := by
    intro operation
    unfold perform
    rw [operation]
    rfl
  ip := processor.ip_perform ram word

end Processor

namespace Word

variable {word other : Word}

theorem registerAt_congr (same : other.setWidth 12 = word.setWidth 12) {position : Nat}
    (inside : position + 2 ≤ 12) : other.registerAt position = word.registerAt position := by
  have field (word : Word) : word.extractLsb' position 2 = (word.setWidth 12).extractLsb' position 2 := by
    apply BitVec.eq_of_getLsbD_eq
    intro index small
    rw [BitVec.getLsbD_extractLsb', BitVec.getLsbD_extractLsb', BitVec.getLsbD_setWidth,
      decide_eq_true (show position + index < 12 by omega), Bool.true_and]
  rw [registerAt, registerAt, field other, field word, same]

theorem getLsbD_congr (same : other.setWidth 12 = word.setWidth 12) : other.getLsbD 7 = word.getLsbD 7 := by
  simpa using congrArg (·.getLsbD 7) same

end Word

theorem Processor.flags_perform_cmp (processor : Processor depth) (ram stored : Ram) {word other : Word}
    (compared : word.operation = .cmp) (subtracted : other.operation = .sub)
    (same : other.setWidth 12 = word.setWidth 12) :
    (processor.perform ram word).1.flags = (processor.perform stored other).1.flags := by
  unfold perform
  rw [compared, subtracted]
  simp only [flags_write, Word.registerAt_congr same (Nat.le_refl 12),
    Word.registerAt_congr same (by decide : 8 + 2 ≤ 12), Word.getLsbD_congr same]

namespace Machine

/-- A cycle that is not skipped: what it leaves is the row of its word, and what it reports is
that row as well. -/
structure Executed (machine : Machine) (snapshot : Snapshot) (next : Machine) : Prop where
  row : ∃ processor : Processor machine.state.callStack.length, processor.state = machine.state ∧
    next.state = (processor.perform machine.bus.ram machine.word).1.state ∧
    next.bus.ram = (processor.perform machine.bus.ram machine.word).2 ∧
    snapshot.accesses =
      .fetch machine.state.ip.toNat machine.word :: processor.accesses machine.bus.ram machine.word
  frame : Frame machine.word machine.state next.state machine.bus.ram next.bus.ram
  rom : next.bus.rom = machine.bus.rom
  log : next.bus.log = []
  cycles : next.cycles = machine.cycles + 1
  kept : next.depth = machine.depth ∧ next.symbols = machine.symbols
  snapshot : snapshot.state = next.state ∧ snapshot.word = some machine.word ∧ snapshot.cycles = next.cycles ∧
    snapshot.symbol = some (machine.symbolText machine.state.ip machine.word)
  comparison : machine.word.operation = .cmp → ∀ other : Machine, other.state = machine.state →
    other.word.operation = .sub → other.word.setWidth 12 = machine.word.setWidth 12 →
      other.step.2.state.flags = next.state.flags

/-- A halted machine stays as it is, and a cycle of a running one is the row of the word at its
instruction pointer, which alone says what changes. -/
theorem step_obeys_table {machine : Machine} (wellFormed : machine.state.WellFormed) :
    (machine.state.halted = true →
      machine.step = (.ok ⟨machine.state, none, machine.cycles, none, []⟩,
        { machine with bus := machine.bus.clearLog })) ∧
    (machine.state.halted = false →
      ∃ snapshot next, machine.step = (.ok snapshot, next) ∧ machine.Executed snapshot next) := by
  refine ⟨step_of_halted, fun running => ?_⟩
  obtain ⟨processor, same⟩ := wellFormed.exists_processor
  have frame := processor.frame_perform machine.bus.ram machine.word
  rw [same] at frame
  refine ⟨_, _, step_state same running, {
    row := ⟨processor, same, rfl, rfl, rfl⟩
    frame := frame
    rom := rfl
    log := rfl
    cycles := rfl
    kept := ⟨rfl, rfl⟩
    snapshot := ⟨rfl, rfl, rfl, rfl⟩
    comparison := ?_ }⟩
  intro compared other sameState subtracted sameOperands
  rw [step_state (same.trans sameState.symm) (sameState ▸ running)]
  exact (processor.flags_perform_cmp _ _ compared subtracted sameOperands).symm

theorem step_obeys_table_past_end :
    let machine : Machine :=
      { bus := { ram := ⟨#[7]⟩, rom := ⟨#[]⟩ }, state := { ip := 4095, callStack := [12] }, depth := 1 }
    machine.state.WellFormed ∧ machine.step.2.state.halted = true ∧ machine.step.2.state.ip = 4095 := by
  intro machine
  have wellFormed : machine.state.WellFormed := by
    refine ⟨?_, ?_, ?_, ?_⟩ <;> decide
  obtain ⟨snapshot, next, stepped, executed⟩ := (step_obeys_table wellFormed).2 rfl
  have operation : machine.word.operation = .hlt := by decide
  have stays : machine.word.successor machine.state = 4095 := by decide
  rw [stepped]
  exact ⟨wellFormed, executed.frame.halts operation, executed.frame.ip.trans stays⟩

end Machine

end HarvardBench
