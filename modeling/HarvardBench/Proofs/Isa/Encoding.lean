import HarvardBench.Isa.Instruction

/-! Instructions and their words.

The fields of a word depend on its payload alone, but for the operation. Hence the word
of an instruction decodes to the instruction.
-/

set_option autoImplicit false

namespace HarvardBench

namespace Word

variable {word : Word} {code payload : Nat}

section Fields

variable (laidOut : word.toNat = code * 4096 + payload)

include laidOut

theorem opcode_of_payload (bound : payload < 4096) : word.opcode = .ofCode code := by
  unfold opcode
  rw [laidOut]
  congr 1
  omega

theorem register1_of_payload : word.register1 = .ofCode (payload / 1024 % 4) := by
  unfold register1
  rw [laidOut]
  congr 1
  omega

theorem register2_of_payload : word.register2 = .ofCode (payload / 256 % 4) := by
  unfold register2
  rw [laidOut]
  congr 1
  omega

theorem chained_of_payload : word.chained = (payload / 128 % 2 == 1) := by
  unfold chained
  rw [laidOut]
  congr 1
  omega

theorem flags_of_payload :
    word.flags = ⟨payload / 2048 % 2 == 1, payload / 1024 % 2 == 1⟩ := by
  unfold flags
  rw [laidOut]
  congr 2 <;> omega

theorem programTarget_of_payload : word.programTarget = BitVec.ofNat 12 payload := by
  apply BitVec.eq_of_toNat_eq
  simp only [programTarget, BitVec.toNat_setWidth, BitVec.toNat_ofNat, laidOut]
  omega

theorem dataTarget_of_payload : word.dataTarget = BitVec.ofNat 10 payload := by
  apply BitVec.eq_of_toNat_eq
  simp only [dataTarget, BitVec.toNat_setWidth, BitVec.toNat_ofNat, laidOut]
  omega

theorem immediate_of_payload : word.immediate = BitVec.ofNat 8 payload := by
  apply BitVec.eq_of_toNat_eq
  simp only [immediate, BitVec.toNat_setWidth, BitVec.toNat_ofNat, laidOut]
  omega

end Fields

end Word

namespace Instruction

theorem opcode_word (instruction : Instruction) : instruction.word.opcode = instruction.opcode := by
  rw [Word.opcode_of_payload instruction.toNat_word instruction.payload_lt, Opcode.ofCode_code]

section Payloads

variable (first second : Register)

theorem register1_leading {payload : Nat} (low : first.code * 1024 ≤ payload)
    (high : payload < first.code * 1024 + 1024) : Register.ofCode (payload / 1024 % 4) = first := by
  have bound := first.code_lt
  rw [show payload / 1024 % 4 = first.code by omega, Register.ofCode_code]

theorem register1_pair {extra : Nat} (small : extra < 256) :
    Register.ofCode ((pairPayload first second + extra) / 1024 % 4) = first := by
  have bound := second.code_lt
  unfold pairPayload
  exact register1_leading first (by omega) (by omega)

theorem register2_pair {extra : Nat} (small : extra < 256) :
    Register.ofCode ((pairPayload first second + extra) / 256 % 4) = second := by
  have bound := second.code_lt
  unfold pairPayload
  rw [show (first.code * 1024 + second.code * 256 + extra) / 256 % 4 = second.code by omega,
    Register.ofCode_code]

theorem chained_pair (chained : Bool) :
    ((pairPayload first second + chained.toNat * 128) / 128 % 2 == 1) = chained := by
  unfold pairPayload
  cases chained with
  | false =>
    simp only [Bool.toNat_false, beq_eq_false_iff_ne]
    omega
  | true =>
    simp only [Bool.toNat_true, beq_iff_eq]
    omega

end Payloads

theorem flags_flagPayload (flags : Flags) :
    (⟨flagPayload flags / 2048 % 2 == 1, flagPayload flags / 1024 % 2 == 1⟩ : Flags) = flags := by
  obtain ⟨carry, zero⟩ := flags
  cases carry <;> cases zero <;> rfl

section Families

variable {word : Word} {code : Nat}

theorem pair_of_payload {first second : Register} {chained : Bool}
    (laidOut : word.toNat = code * 4096 + (pairPayload first second + chained.toNat * 128)) :
    word.register1 = first ∧ word.register2 = second ∧ word.chained = chained := by
  have bit : chained.toNat * 128 < 256 := by have := chained.toNat_le; omega
  rw [Word.register1_of_payload laidOut, Word.register2_of_payload laidOut,
    Word.chained_of_payload laidOut]
  exact ⟨register1_pair first second bit, register2_pair first second bit,
    chained_pair first second chained⟩

theorem transfer_of_payload {first : Register} {address : BitVec 10}
    (laidOut : word.toNat = code * 4096 + (first.code * 1024 + address.toNat)) :
    word.register1 = first ∧ word.dataTarget = address := by
  have bound := address.isLt
  rw [Word.register1_of_payload laidOut, Word.dataTarget_of_payload laidOut]
  refine ⟨register1_leading first (by omega) (by omega), BitVec.eq_of_toNat_eq ?_⟩
  rw [BitVec.toNat_ofNat]
  omega

theorem immediate_of_payload {first : Register} {value : BitVec 8}
    (laidOut : word.toNat = code * 4096 + (first.code * 1024 + value.toNat)) :
    word.register1 = first ∧ word.immediate = value := by
  have bound := value.isLt
  rw [Word.register1_of_payload laidOut, Word.immediate_of_payload laidOut]
  refine ⟨register1_leading first (by omega) (by omega), BitVec.eq_of_toNat_eq ?_⟩
  rw [BitVec.toNat_ofNat]
  omega

theorem target_of_payload {target : BitVec 12} (laidOut : word.toNat = code * 4096 + target.toNat) :
    word.programTarget = target := by
  rw [Word.programTarget_of_payload laidOut, BitVec.ofNat_toNat, BitVec.setWidth_eq]

end Families

@[simp] theorem instruction_word (instruction : Instruction) :
    instruction.word.instruction = instruction := by
  have laidOut := instruction.toNat_word
  unfold Word.instruction
  rw [instruction.opcode_word]
  cases instruction with
  | hlt => rfl
  | ret => rfl
  | add first second chained | sub first second chained | cmp first second chained =>
    obtain ⟨one, two, three⟩ := pair_of_payload laidOut
    simp only [opcode, one, two, three]
  | nand first second =>
    -- The word is that of a pair that is not chained.
    have plain : (nand first second).payload = pairPayload first second + false.toNat * 128 := by
      simp [payload]
    rw [plain] at laidOut
    obtain ⟨one, two, _⟩ := pair_of_payload laidOut
    simp only [opcode, one, two]
  | shr first =>
    have field : Register.ofCode ((shr first).payload / 1024 % 4) = first :=
      register1_leading first (Nat.le_refl _) (Nat.lt_add_of_pos_right (by decide))
    have one := (Word.register1_of_payload laidOut).trans field
    simp only [opcode, one]
  | stb flags | clb flags =>
    have read := (Word.flags_of_payload laidOut).trans (flags_flagPayload flags)
    simp only [opcode, read]
  | ldi first value =>
    obtain ⟨one, two⟩ := immediate_of_payload laidOut
    simp only [opcode, one, two]
  | lod first address | str first address =>
    obtain ⟨one, two⟩ := transfer_of_payload laidOut
    simp only [opcode, one, two]
  | jmp target | jc target | jz target | call target =>
    simp only [opcode, target_of_payload laidOut]

end Instruction

def Opcode.branching? : Opcode → Option (BitVec 12 → Instruction)
  | jmp => some .jmp
  | jc => some .jc
  | jz => some .jz
  | call => some .call
  | _ => none

theorem Opcode.branching?_isSome_iff {opcode : Opcode} :
    opcode.branching?.isSome ↔ opcode.format = .programAddress := by
  cases opcode <;> simp [branching?, format]

inductive Opcode.Branches : Opcode → (BitVec 12 → Instruction) → Prop where
  | jmp : Branches .jmp .jmp
  | jc : Branches .jc .jc
  | jz : Branches .jz .jz
  | call : Branches .call .call

section Branching

variable {opcode : Opcode} {build : BitVec 12 → Instruction} (branches : opcode.branching? = some build)

include branches

theorem Opcode.branches_of_branching : opcode.Branches build := by
  cases opcode with
  | jmp => exact Option.some.inj branches ▸ .jmp
  | jc => exact Option.some.inj branches ▸ .jc
  | jz => exact Option.some.inj branches ▸ .jz
  | call => exact Option.some.inj branches ▸ .call
  | _ => simp [branching?] at branches

theorem Instruction.opcode_of_branching (target : BitVec 12) : (build target).opcode = opcode := by
  cases Opcode.branches_of_branching branches <;> rfl

theorem Instruction.payload_of_branching (target : BitVec 12) : (build target).payload = target.toNat := by
  cases Opcode.branches_of_branching branches <;> rfl

end Branching

end HarvardBench
