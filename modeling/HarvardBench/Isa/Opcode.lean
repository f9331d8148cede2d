/-! Operation codes, their names and the shape of their operands. -/

set_option autoImplicit false

namespace HarvardBench

inductive Opcode where
  | hlt | add | sub | stb | nand | ldi | shr | cmp
  | jmp | jc | jz | lod | str | call | ret | clb
  deriving DecidableEq, Repr

/-- The operand classes. Their numbers are those of `Format.number`. -/
inductive Format where
  | none
  | registerPairCarry
  | registerPair
  | programAddress
  | registerDataAddress
  | flags
  | register
  | registerImmediate
  deriving DecidableEq, Repr

namespace Format

def number : Format → Nat
  | none => 0
  | registerPairCarry => 1
  | registerPair => 2
  | programAddress => 3
  | registerDataAddress => 4
  | flags => 5
  | register => 6
  | registerImmediate => 7

end Format

namespace Opcode

def all : List Opcode :=
  [hlt, add, sub, stb, nand, ldi, shr, cmp, jmp, jc, jz, lod, str, call, ret, clb]

def code : Opcode → Nat
  | hlt => 0
  | add => 1
  | sub => 2
  | stb => 3
  | nand => 4
  | ldi => 5
  | shr => 6
  | cmp => 7
  | jmp => 8
  | jc => 9
  | jz => 10
  | lod => 11
  | str => 12
  | call => 13
  | ret => 14
  | clb => 15

def ofCode : Nat → Opcode
  | 0 => hlt
  | 1 => add
  | 2 => sub
  | 3 => stb
  | 4 => nand
  | 5 => ldi
  | 6 => shr
  | 7 => cmp
  | 8 => jmp
  | 9 => jc
  | 10 => jz
  | 11 => lod
  | 12 => str
  | 13 => call
  | 14 => ret
  | _ => clb

@[simp] theorem ofCode_code (opcode : Opcode) : ofCode opcode.code = opcode := by
  cases opcode <;> rfl

theorem code_lt (opcode : Opcode) : opcode.code < 16 := by
  cases opcode <;> decide

theorem code_ofCode {value : Nat} (bound : value < 16) : (ofCode value).code = value := by
  revert bound
  revert value
  decide

def name : Opcode → String
  | hlt => "HLT"
  | add => "ADD"
  | sub => "SUB"
  | stb => "STB"
  | nand => "NAND"
  | ldi => "LDI"
  | shr => "SHR"
  | cmp => "CMP"
  | jmp => "JMP"
  | jc => "JC"
  | jz => "JZ"
  | lod => "LOD"
  | str => "STR"
  | call => "CALL"
  | ret => "RET"
  | clb => "CLB"

def ofName? (text : List Char) : Option Opcode :=
  all.find? fun opcode => opcode.name.toList == text

def format : Opcode → Format
  | hlt | ret => .none
  | add | sub | cmp => .registerPairCarry
  | nand => .registerPair
  | jmp | jc | jz | call => .programAddress
  | lod | str => .registerDataAddress
  | stb | clb => .flags
  | shr => .register
  | ldi => .registerImmediate

end Opcode

end HarvardBench
