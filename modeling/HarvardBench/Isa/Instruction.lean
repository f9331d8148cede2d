import HarvardBench.Isa.Opcode
import HarvardBench.Isa.Register
import HarvardBench.Word

/-! Instructions, their words and their operand texts.

A word carries its operation in the top four bits; the operand fields lie where
the operand class puts them, and the other bits do not matter to decoding. The
word of an instruction has those bits clear.
-/

set_option autoImplicit false

namespace HarvardBench

inductive Instruction where
  | hlt
  | add (target source : Register) (chained : Bool)
  | sub (target source : Register) (chained : Bool)
  | cmp (left right : Register) (chained : Bool)
  | nand (target source : Register)
  | shr (target : Register)
  | stb (flags : Flags)
  | clb (flags : Flags)
  | ldi (target : Register) (value : BitVec 8)
  | lod (target : Register) (address : BitVec 10)
  | str (source : Register) (address : BitVec 10)
  | jmp (target : BitVec 12)
  | jc (target : BitVec 12)
  | jz (target : BitVec 12)
  | call (target : BitVec 12)
  | ret
  deriving DecidableEq, Repr

namespace Word

def ofInt (value : Int) : Word := BitVec.ofInt 16 value

def opcode (word : Word) : Opcode := .ofCode (word.toNat / 4096)

def register1 (word : Word) : Register := .ofCode (word.toNat / 1024 % 4)

def register2 (word : Word) : Register := .ofCode (word.toNat / 256 % 4)

def chained (word : Word) : Bool := word.toNat / 128 % 2 == 1

def programTarget (word : Word) : BitVec 12 := word.setWidth 12

def dataTarget (word : Word) : BitVec 10 := word.setWidth 10

def immediate (word : Word) : BitVec 8 := word.setWidth 8

def flags (word : Word) : Flags :=
  ⟨word.toNat / 2048 % 2 == 1, word.toNat / 1024 % 2 == 1⟩

def instruction (word : Word) : Instruction :=
  match opcode word with
  | .hlt => .hlt
  | .add => .add (register1 word) (register2 word) (chained word)
  | .sub => .sub (register1 word) (register2 word) (chained word)
  | .cmp => .cmp (register1 word) (register2 word) (chained word)
  | .nand => .nand (register1 word) (register2 word)
  | .shr => .shr (register1 word)
  | .stb => .stb (flags word)
  | .clb => .clb (flags word)
  | .ldi => .ldi (register1 word) (immediate word)
  | .lod => .lod (register1 word) (dataTarget word)
  | .str => .str (register1 word) (dataTarget word)
  | .jmp => .jmp (programTarget word)
  | .jc => .jc (programTarget word)
  | .jz => .jz (programTarget word)
  | .call => .call (programTarget word)
  | .ret => .ret

end Word

namespace Instruction

def opcode : Instruction → Opcode
  | hlt => .hlt
  | add .. => .add
  | sub .. => .sub
  | cmp .. => .cmp
  | nand .. => .nand
  | shr .. => .shr
  | stb .. => .stb
  | clb .. => .clb
  | ldi .. => .ldi
  | lod .. => .lod
  | str .. => .str
  | jmp .. => .jmp
  | jc .. => .jc
  | jz .. => .jz
  | call .. => .call
  | ret => .ret

def pairPayload (first second : Register) : Nat := first.code * 1024 + second.code * 256

def flagPayload (flags : Flags) : Nat := flags.carry.toNat * 2048 + flags.zero.toNat * 1024

def payload : Instruction → Nat
  | hlt | ret => 0
  | add target source chained => pairPayload target source + chained.toNat * 128
  | sub target source chained => pairPayload target source + chained.toNat * 128
  | cmp left right chained => pairPayload left right + chained.toNat * 128
  | nand target source => pairPayload target source
  | shr target => target.code * 1024
  | stb flags => flagPayload flags
  | clb flags => flagPayload flags
  | ldi target value => target.code * 1024 + value.toNat
  | lod target address => target.code * 1024 + address.toNat
  | str source address => source.code * 1024 + address.toNat
  | jmp target | jc target | jz target | call target => target.toNat

def word (instruction : Instruction) : Word :=
  BitVec.ofNat 16 (instruction.opcode.code * 4096 + instruction.payload)

def pairOperands (first second : Register) (chained : Bool) : List String :=
  [first.name, second.name] ++ if chained then ["carry"] else []

def flagOperands (flags : Flags) : List String :=
  (if flags.carry then ["CARRY"] else []) ++ if flags.zero then ["ZERO"] else []

def programOperand (target : BitVec 12) : String := "$$" ++ toString target.toNat

def dataOperand (address : BitVec 10) : String := "$" ++ toString address.toNat

def operands : Instruction → List String
  | hlt | ret => []
  | add target source chained => pairOperands target source chained
  | sub target source chained => pairOperands target source chained
  | cmp left right chained => pairOperands left right chained
  | nand target source => pairOperands target source false
  | shr target => [target.name]
  | stb flags => flagOperands flags
  | clb flags => flagOperands flags
  | ldi target value => [target.name, "#" ++ toString value.toNat]
  | lod target address => [target.name, dataOperand address]
  | str source address => [source.name, dataOperand address]
  | jmp target | jc target | jz target | call target => [programOperand target]

/-- The program address that an instruction may continue at, other than by returning. -/
def target? : Instruction → Option (BitVec 12)
  | jmp target | jc target | jz target | call target => some target
  | _ => none

theorem payload_lt (instruction : Instruction) : instruction.payload < 4096 := by
  have small (register : Register) : register.code < 4 := register.code_lt
  have bit (b : Bool) : b.toNat ≤ 1 := Bool.toNat_le b
  cases instruction with
  | hlt => decide
  | ret => decide
  | add a b c | sub a b c | cmp a b c =>
    have := small a; have := small b; have := bit c
    simp only [payload, pairPayload]; omega
  | nand a b => have := small a; have := small b; simp only [payload, pairPayload]; omega
  | shr a => have := small a; simp only [payload]; omega
  | stb f | clb f =>
    have := bit f.carry; have := bit f.zero
    simp only [payload, flagPayload]; omega
  | ldi a v => have := small a; have := v.isLt; simp only [payload]; omega
  | lod a v | str a v => have := small a; have := v.isLt; simp only [payload]; omega
  | jmp t | jc t | jz t | call t => exact t.isLt

theorem toNat_word (instruction : Instruction) :
    instruction.word.toNat = instruction.opcode.code * 4096 + instruction.payload := by
  have := instruction.payload_lt
  have := instruction.opcode.code_lt
  simp only [word, BitVec.toNat_ofNat]
  omega

end Instruction

end HarvardBench
