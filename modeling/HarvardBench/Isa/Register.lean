/-! Register and flag names, and the values a machine holds under them.

The null register reads as zero and drops what is written to it. A register file
may be handed in with values outside a byte; writing always stores a byte.
-/

set_option autoImplicit false

namespace HarvardBench

inductive Register where
  | null | x | y | z
  deriving DecidableEq, Repr

namespace Register

def all : List Register := [null, x, y, z]

def code : Register → Nat
  | null => 0
  | x => 1
  | y => 2
  | z => 3

def ofCode : Nat → Register
  | 0 => null
  | 1 => x
  | 2 => y
  | _ => z

@[simp] theorem ofCode_code (register : Register) : ofCode register.code = register := by
  cases register <;> rfl

theorem code_lt (register : Register) : register.code < 4 := by
  cases register <;> decide

def name : Register → String
  | null => "null"
  | x => "x"
  | y => "y"
  | z => "z"

def ofName? (text : List Char) : Option Register :=
  all.find? fun register => register.name.toList == text

end Register

structure Registers where
  x : Int := 0
  y : Int := 0
  z : Int := 0
  deriving DecidableEq, Repr

namespace Registers

def get (registers : Registers) : Register → Int
  | .null => 0
  | .x => registers.x
  | .y => registers.y
  | .z => registers.z

def set (registers : Registers) (register : Register) (value : Int) : Registers :=
  match register with
  | .null => registers
  | .x => { registers with x := value % 256 }
  | .y => { registers with y := value % 256 }
  | .z => { registers with z := value % 256 }

def toList (registers : Registers) : List Int := [registers.x, registers.y, registers.z]

theorem get_set_self {register : Register} (registers : Registers) (value : Int)
    (named : register ≠ .null) : (registers.set register value).get register = value % 256 := by
  cases register <;> simp_all [get, set]

theorem get_set_other {written read : Register} (registers : Registers) (value : Int)
    (different : read ≠ written) :
    (registers.set written value).get read = registers.get read := by
  cases written <;> cases read <;> simp_all [get, set]

end Registers

inductive Flag where
  | carry | zero
  deriving DecidableEq, Repr

namespace Flag

def name : Flag → String
  | carry => "carry"
  | zero => "zero"

def ofName? (text : List Char) : Option Flag :=
  [carry, zero].find? fun flag => flag.name.toList == text

end Flag

/-- The two condition flags; as an operand, the set of flags that an instruction names. -/
structure Flags where
  carry : Bool := false
  zero : Bool := false
  deriving DecidableEq, Repr

namespace Flags

def get (flags : Flags) : Flag → Bool
  | .carry => flags.carry
  | .zero => flags.zero

def insert (flags : Flags) : Flag → Flags
  | .carry => { flags with carry := true }
  | .zero => { flags with zero := true }

def raise (flags named : Flags) : Flags :=
  ⟨flags.carry || named.carry, flags.zero || named.zero⟩

def lower (flags named : Flags) : Flags :=
  ⟨flags.carry && !named.carry, flags.zero && !named.zero⟩

end Flags

end HarvardBench
