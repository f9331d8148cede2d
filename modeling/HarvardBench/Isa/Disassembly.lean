import HarvardBench.Isa.Instruction
import HarvardBench.Memory.Rom
import HarvardBench.Symbols

/-! Words as text.

A program address is shown as the first label of that address where the table
has one, and as a number otherwise.
-/

set_option autoImplicit false

namespace HarvardBench

def statementText (mnemonic : String) (operands : List String) : String :=
  if operands.isEmpty then mnemonic else mnemonic ++ " " ++ ", ".intercalate operands

namespace Instruction

def shownOperands (instruction : Instruction) (symbols : Symbols) : List String :=
  match instruction.target?.bind fun target => symbols.nameAt? target.toNat with
  | some name => [name]
  | none => instruction.operands

def text (instruction : Instruction) (symbols : Symbols) : String :=
  statementText instruction.opcode.name (instruction.shownOperands symbols)

end Instruction

def Word.text (word : Word) (symbols : Symbols) : String := word.instruction.text symbols

structure Row where
  address : Int
  word : Word
  text : String
  deriving DecidableEq, Repr

namespace Rom

/-- The rows of some consecutive addresses, up to the end of the memory. An address
below zero is refused like any other read of it. -/
def rows (rom : Rom) (symbols : Symbols) (start : Int) : Nat → Except DeviceError (List Row)
  | 0 => .ok []
  | count + 1 =>
    if (rom.size : Int) ≤ start then .ok []
    else do
      let word ← rom.read start
      let rest ← rows rom symbols (start + 1) count
      return ⟨start, word, word.text symbols⟩ :: rest

def disassemble (rom : Rom) (symbols : Symbols) (start length : Int) : Except DeviceError (List Row) :=
  rom.rows symbols start length.toNat

end Rom

end HarvardBench
