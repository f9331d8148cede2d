/-! Digits and their values.

Reading and showing decimal numbers is bounded: a decimal numeral may have 4300
digits at most, leading zeros counted. Numerals to other bases have no bound.
-/

set_option autoImplicit false

namespace HarvardBench.Text

inductive Radix where
  | binary | decimal | hexadecimal
  deriving DecidableEq, Repr

def decimalLimit : Nat := 4300

def digitValue? (c : Char) : Option Nat :=
  let n := c.toNat
  if 48 ≤ n ∧ n ≤ 57 then some (n - 48)
  else if 97 ≤ n ∧ n ≤ 102 then some (n - 87)
  else if 65 ≤ n ∧ n ≤ 70 then some (n - 55)
  else none

def digitIn? (base : Nat) (c : Char) : Option Nat :=
  (digitValue? c).filter fun value => value < base

def isDigitIn (base : Nat) (c : Char) : Bool := (digitIn? base c).isSome

def valueIn (base : Nat) (digits : List Char) : Nat :=
  digits.foldl (fun total c => total * base + (digitIn? base c).getD 0) 0

def admitsIn (base count : Nat) : Bool := base != 10 || count ≤ decimalLimit

namespace Radix

def base : Radix → Nat
  | binary => 2
  | decimal => 10
  | hexadecimal => 16

def ofMarker? (c : Char) : Option Radix :=
  match c.toLower with
  | 'd' => some decimal
  | 'b' => some binary
  | 'x' => some hexadecimal
  | _ => none

def isDigit (radix : Radix) (c : Char) : Bool := isDigitIn radix.base c

def value (radix : Radix) (digits : List Char) : Nat := valueIn radix.base digits

def admits (radix : Radix) (count : Nat) : Bool := admitsIn radix.base count

end Radix

/-- The numbers below it have no more digits than a decimal numeral may have. -/
def decimalSpan : Nat := Nat.pow 10 decimalLimit

def isShowable (value : Int) : Bool := value.natAbs < decimalSpan

end HarvardBench.Text
