import HarvardBench.Word

/-! Byte arithmetic with a carry, on integers of any size.

The carry of a subtraction means that nothing was borrowed.
-/

set_option autoImplicit false

namespace HarvardBench.Arithmetic

structure Outcome where
  result : Int
  carry : Bool
  zero : Bool
  deriving DecidableEq, Repr

/-- The low byte of a sum, whether the sum exceeds a byte, and whether the byte is zero. -/
def Outcome.ofSum (sum : Int) : Outcome :=
  ⟨sum % 256, decide (255 < sum), sum % 256 == 0⟩

def add (left right : Int) (carry : Bool) : Outcome :=
  .ofSum (left + right + if carry then 1 else 0)

def complement (value : Int) : Int := 255 - value % 256

/-- Add the complement, and one more unless the carry says that something was borrowed. -/
def sub (left right : Int) (borrow : Bool) : Outcome :=
  .ofSum (left + complement right + if borrow then 0 else 1)

def nand (left right : Int) : Int :=
  255 - ((left % 256).toNat &&& (right % 256).toNat : Nat)

end HarvardBench.Arithmetic
