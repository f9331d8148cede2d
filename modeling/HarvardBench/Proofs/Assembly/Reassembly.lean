import HarvardBench.Proofs.Assembly.Printing
import HarvardBench.Proofs.Machine.Table
import Mathlib.Algebra.Group.Nat.Defs

/-! Printed words, read again.

The text of a word leaves out the bits that the format of its operation does not use.
Reading the text gives the word with these bits clear, which does the same as the word;
and the words that are read from any text at all have these bits clear.
-/

set_option autoImplicit false

namespace HarvardBench

/-- The bits that a format leaves unused: the lowest of them, and how many there are. -/
def Format.spare : Format → Nat × Nat
  | none => (0, 12)
  | registerPairCarry => (0, 7)
  | registerPair => (0, 8)
  | programAddress | registerDataAddress => (0, 0)
  | flags | register => (0, 10)
  | registerImmediate => (8, 2)

namespace Word

def spareBits (word : Word) : BitVec word.operation.format.spare.2 :=
  word.extractLsb' word.operation.format.spare.1 word.operation.format.spare.2

def Flagless (word : Word) : Prop :=
  (word.operation = .stb ∨ word.operation = .clb) ∧ word.getLsbD 11 = false ∧ word.getLsbD 10 = false

instance (word : Word) : Decidable word.Flagless :=
  inferInstanceAs (Decidable (_ ∧ _ ∧ _))

/-- Two words that no state, bus, processor or data memory tells apart. -/
structure Alike (first second : Word) : Prop where
  execute : ∀ state bus, first.instruction.execute state bus = second.instruction.execute state bus
  perform : ∀ {depth : Nat} (processor : Processor depth) (ram : Ram),
    processor.perform ram first = processor.perform ram second
  accesses : ∀ {depth : Nat} (processor : Processor depth) (ram : Ram),
    processor.accesses ram first = processor.accesses ram second

end Word

/-! ## Unused bits -/

theorem Register.code_ofCode {value : Nat} (bound : value < 4) : (ofCode value).code = value := by
  revert bound
  revert value
  decide

namespace Word

variable (word : Word)

theorem code_register1 : word.register1.code = word.toNat / 1024 % 4 :=
  Register.code_ofCode (Nat.mod_lt _ (by decide))

theorem code_register2 : word.register2.code = word.toNat / 256 % 4 :=
  Register.code_ofCode (Nat.mod_lt _ (by decide))

theorem toNat_bit (value : Nat) : (value % 2 == 1).toNat = value % 2 := by
  rcases Nat.mod_two_eq_zero_or_one value with even | odd
  · rw [even]; rfl
  · rw [odd]; rfl

theorem opcode_instruction : word.instruction.opcode = word.opcode := by
  unfold Word.instruction
  cases word.opcode <;> rfl

theorem toNat_spareBits : word.spareBits.toNat =
    word.toNat / 2 ^ word.opcode.format.spare.1 % 2 ^ word.opcode.format.spare.2 := by
  rw [spareBits, BitVec.extractLsb'_toNat, Nat.shiftRight_eq_div_pow, opcode_eq]

/-- The fields of a word and its unused bits make up the word. -/
theorem toNat_instruction_word :
    word.instruction.word.toNat + word.spareBits.toNat * 2 ^ word.opcode.format.spare.1 = word.toNat := by
  have bound := word.isLt
  have code : word.opcode.code = word.toNat / 4096 := Opcode.code_ofCode (by omega)
  rw [Instruction.toNat_word, opcode_instruction, code, toNat_spareBits]
  unfold Word.instruction
  -- In each format the fields and the spare bits lie side by side, so they add up to the word.
  cases word.opcode with
  | hlt | ret =>
    simp only [Instruction.payload, Opcode.format, Format.spare]
    omega
  | add | sub | cmp =>
    simp only [Instruction.payload, Instruction.pairPayload, code_register1, code_register2, chained, toNat_bit,
      Opcode.format, Format.spare]
    omega
  | nand =>
    simp only [Instruction.payload, Instruction.pairPayload, code_register1, code_register2, Opcode.format,
      Format.spare]
    omega
  | stb | clb =>
    simp only [Instruction.payload, Instruction.flagPayload, flags, toNat_bit, Opcode.format, Format.spare]
    omega
  | shr =>
    simp only [Instruction.payload, code_register1, Opcode.format, Format.spare]
    omega
  | ldi =>
    simp only [Instruction.payload, code_register1, immediate, BitVec.toNat_setWidth, Opcode.format, Format.spare]
    omega
  | lod | str =>
    simp only [Instruction.payload, code_register1, dataTarget, BitVec.toNat_setWidth, Opcode.format, Format.spare]
    omega
  | jmp | jc | jz | call =>
    simp only [Instruction.payload, programTarget, BitVec.toNat_setWidth, Opcode.format, Format.spare]
    omega

theorem instruction_word_eq_iff : word.instruction.word = word ↔ word.spareBits = 0#_ := by
  have whole := word.toNat_instruction_word
  have positive : 0 < 2 ^ word.opcode.format.spare.1 := Nat.two_pow_pos _
  rw [← BitVec.toNat_inj, ← BitVec.toNat_inj, BitVec.toNat_zero]
  constructor
  · intro same
    have none : word.spareBits.toNat * 2 ^ word.opcode.format.spare.1 = 0 := by omega
    exact (Nat.mul_eq_zero.mp none).resolve_right positive.ne'
  · intro none
    rw [none, Nat.zero_mul] at whole
    exact whole

theorem namesFlags_instruction_iff : Assembly.NamesFlags word.instruction ↔ ¬ word.Flagless := by
  unfold Word.instruction Flagless
  rw [opcode_eq, flags_eq]
  cases word.operation <;> simp [Assembly.NamesFlags]

end Word

/-! ## Effects -/

theorem Processor.state_injective {depth : Nat} :
    Function.Injective (state : Processor depth → State) := by
  intro first second same
  have entries : Function.Injective fun address : BitVec 12 => (address.toNat : Int) :=
    fun _ _ equal => BitVec.eq_of_toNat_eq (Int.ofNat.inj equal)
  obtain ⟨ip, halted, x, y, z, flags, stack, sp⟩ := first
  obtain ⟨ip', halted', x', y', z', flags', stack', sp'⟩ := second
  simp only [state, State.mk.injEq, Registers.mk.injEq, Int.natCast_inj, BitVec.toNat_inj, Fin.val_inj,
    entries.list_map.eq_iff, Vector.toList_inj] at same
  obtain ⟨rfl, rfl, ⟨rfl, rfl, rfl⟩, rfl, rfl, rfl⟩ := same
  rfl

/-- Words of one instruction are alike: the fields of the instruction are all that is read. -/
theorem Word.Alike.of_instruction {first second : Word} (same : first.instruction = second.instruction) :
    first.Alike second := by
  -- The table reads bits of the word, and agrees with what the instruction does.
  have rows {depth : Nat} (processor : Processor depth) (ram : Ram) :
      processor.perform ram first = processor.perform ram second ∧
        processor.accesses ram first = processor.accesses ram second := by
    have row := execute_state processor ⟨ram, ⟨#[]⟩, []⟩ first
    rw [same, execute_state] at row
    obtain ⟨moved, bus⟩ := Prod.mk.inj (Except.ok.inj row)
    obtain ⟨stored, _, logged⟩ := Bus.mk.inj bus
    exact ⟨Prod.ext (Processor.state_injective moved.symm) stored.symm, logged.symm⟩
  exact ⟨fun state bus => by rw [same], fun processor ram => (rows processor ram).1,
    fun processor ram => (rows processor ram).2⟩

/-! ## Reading printed words -/

namespace Assembly

theorem text_plain (found : Instruction) :
    found.text [] = statementText found.opcode.name found.operands := by
  unfold Instruction.text Instruction.shownOperands
  cases found.target? <;> rfl

theorem statementWord_text_of_named {word : Word} (named : ¬ word.Flagless) :
    statementWord (word.text []).toList = .ok word.instruction.word := by
  rw [Word.text, text_plain]
  exact statementWord_plain_text (word.namesFlags_instruction_iff.mpr named)

theorem statementWord_text_of_flagless {word : Word} (flagless : word.Flagless) :
    statementWord (word.text []).toList = .error (Problem.failure (.flagName "EOL")) := by
  obtain ⟨operation, carry, zero⟩ := flagless
  have none : word.flags = {} := by rw [Word.flags_eq, carry, zero]
  have text : word.text [] = "STB" ∨ word.text [] = "CLB" := by
    rw [Word.text, Word.instruction, Word.opcode_eq, none]
    rcases operation with set | clear
    · rw [set]; exact .inl rfl
    · rw [clear]; exact .inr rfl
  rcases text with written | written
  · rw [written]; decide +kernel
  · rw [written]; decide +kernel

/-- The text of a word is refused exactly if an operation on flags names none, and otherwise
has a word that is alike, which is the word itself exactly if no unused bit is set. A word that
any text is read as has no unused bit set and is read from its own text. -/
theorem statementWord_text (word : Word) :
    ((∃ failure, statementWord (word.text []).toList = .error failure) ↔ word.Flagless) ∧
      (¬ word.Flagless → ∃ other, statementWord (word.text []).toList = .ok other ∧ other.Alike word ∧
        (other = word ↔ word.spareBits = 0#_)) ∧
      ∀ code, statementWord code = .ok word →
        word.spareBits = 0#_ ∧ statementWord (word.text []).toList = .ok word := by
  refine ⟨⟨?_, fun flagless => ⟨_, statementWord_text_of_flagless flagless⟩⟩, ?_, ?_⟩
  · rintro ⟨failure, refused⟩
    by_contra named
    rw [statementWord_text_of_named named] at refused
    cases refused
  · intro named
    exact ⟨word.instruction.word, statementWord_text_of_named named,
      .of_instruction (Instruction.instruction_word word.instruction), word.instruction_word_eq_iff⟩
  · intro code accepted
    obtain ⟨found, named, rfl⟩ := exists_of_statementWord accepted
    have same : found.word.instruction.word = found.word := by rw [Instruction.instruction_word]
    refine ⟨found.word.instruction_word_eq_iff.mp same, ?_⟩
    rw [Word.text, Instruction.instruction_word, text_plain]
    exact statementWord_plain_text named

theorem statementWord_text_load :
    (¬ Word.Flagless 0x5705 ∧ ∃ other, statementWord (Word.text 0x5705 []).toList = .ok other ∧
        other.Alike 0x5705 ∧ (other = 0x5705 ↔ Word.spareBits 0x5705 = 0#2)) ∧
      statementWord "ldi\tX,#x05".toList = .ok 0x5405 ∧ Word.spareBits 0x5405 = 0#2 ∧
        statementWord (Word.text 0x5405 []).toList = .ok 0x5405 :=
  have named : ¬ Word.Flagless 0x5705 := by decide
  have accepted : statementWord "ldi\tX,#x05".toList = .ok 0x5405 := by decide +kernel
  ⟨⟨named, (statementWord_text 0x5705).2.1 named⟩, accepted,
    (statementWord_text 0x5405).2.2 "ldi\tX,#x05".toList accepted⟩

end Assembly

end HarvardBench
