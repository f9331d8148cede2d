import HarvardBench.Memory.Capacity
import HarvardBench.Word

/-! What the two memories refuse. -/

set_option autoImplicit false

namespace HarvardBench

inductive Device where
  | ram | rom
  deriving DecidableEq, Repr

def Device.name : Device → String
  | .ram => "RAM"
  | .rom => "ROM"

inductive DeviceError where
  | size (device : Device)
  | capacity (cause : CapacityError)
  | address (device : Device) (address : Int) (size : Nat)
  | byte (data : Int)
  | word (data : Int)
  deriving DecidableEq, Repr

inductive DeviceError.Class where
  | address | value | capacity
  deriving DecidableEq, Repr

namespace DeviceError

def category : DeviceError → Class
  | address .. => .address
  | size _ | byte _ | word _ => .value
  | capacity _ => .capacity

def message : DeviceError → String
  | size device => s!"{device.name} size must be a positive integer."
  | capacity cause => cause.message
  | address device position cells =>
    s!"Address {position} out of bounds for {device.name} of size {cells}."
  | byte data => s!"Data {data} is not an 8-bit value."
  | word data => s!"Data {data} is not a 16-bit value."

end DeviceError

inductive ImageError where
  | oddLength (bytes : Nat)
  | tooLong (words size : Nat)
  | notWord (word : Int) (index : Nat)
  deriving DecidableEq, Repr

def ImageError.message : ImageError → String
  | oddLength bytes => s!"ROM image length must be even, received {bytes} bytes"
  | tooLong words size => s!"Image of {words} words does not fit in ROM of size {size}."
  | notWord word index => s!"Word {word} at {index} is not a 16-bit value."

/-- The position that an integer address names in a memory of a given size. -/
def cellIndex? (size : Nat) (address : Int) : Option (Fin size) :=
  if h : 0 ≤ address ∧ address < size then some ⟨address.toNat, by omega⟩ else none

theorem cellIndex?_eq_none_iff {size : Nat} {address : Int} :
    cellIndex? size address = none ↔ address < 0 ∨ (size : Int) ≤ address := by
  unfold cellIndex?
  split
  · simp only [reduceCtorEq, false_iff]; omega
  · simp only [true_iff]; omega

/-- The number of bits that an integer fits in without a sign, as a bit vector. -/
def bits? (width : Nat) (value : Int) : Option (BitVec width) :=
  if 0 ≤ value ∧ value.toNat < 1 <<< width then some (BitVec.ofInt width value) else none

def cellCount? : Option Int → Option Nat
  | some size => if 0 < size then some size.toNat else none
  | none => none

end HarvardBench
