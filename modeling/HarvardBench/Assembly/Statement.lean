import HarvardBench.Assembly.Cursor
import HarvardBench.Isa.Instruction
import HarvardBench.Text.Blank
import HarvardBench.Text.LetterCase

/-! One statement: an operation name and its operands. -/

set_option autoImplicit false

namespace HarvardBench.Assembly

open Text

def registerPair : Reader (Register × Register) := do
  let first ← register
  comma
  let second ← register
  return (first, second)

def chainedPair (build : Register → Register → Bool → Instruction) : Reader Instruction := do
  let (first, second) ← registerPair
  let chained ← carryClause
  return build first second chained

/-- A program address of any size stands for its low twelve bits. -/
def branch (build : BitVec 12 → Instruction) : Reader Instruction := do
  let address ← programNumber
  return build (BitVec.ofNat 12 address)

def transfer (build : Register → BitVec 10 → Instruction) : Reader Instruction := do
  let first ← register
  comma
  let address ← dataNumber
  return build first (BitVec.ofNat 10 address)

def operands : Opcode → Reader Instruction
  | .hlt => pure .hlt
  | .ret => pure .ret
  | .add => chainedPair .add
  | .sub => chainedPair .sub
  | .cmp => chainedPair .cmp
  | .nand => do
    let (first, second) ← registerPair
    return .nand first second
  | .shr => do return .shr (← register)
  | .stb => do return .stb (← flags)
  | .clb => do return .clb (← flags)
  | .ldi => do
    let target ← register
    comma
    let value ← immediate
    return .ldi target (BitVec.ofNat 8 value)
  | .lod => transfer .lod
  | .str => transfer .str
  | .jmp => branch .jmp
  | .jc => branch .jc
  | .jz => branch .jz
  | .call => branch .call

def opcodeNamed? (name : List Char) : Option Opcode := Opcode.ofName? (upper name)

def instruction (code : List Char) : Except Failure Instruction :=
  let (name, rest) := splitWord (trim code)
  if name.isEmpty then .error (Problem.failure .emptyStatement)
  else
    match opcodeNamed? name with
    | none => .error (Problem.failure (.mnemonic (String.ofList name)))
    | some opcode => ((do
        let found ← operands opcode
        endOfStatement
        return found : Reader Instruction).run rest).1

def statementWord (code : List Char) : Except Failure Word := (instruction code).map Instruction.word

end HarvardBench.Assembly
