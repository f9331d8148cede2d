/-! Bytes, words and the two address widths of the machine.

A program address has twelve bits and a data address ten. An integer address of
any size and sign stands for its residue.
-/

set_option autoImplicit false

namespace HarvardBench

abbrev Byte := BitVec 8

abbrev Word := BitVec 16

/-- Number of words that a program address can name. -/
def programSpan : Nat := 4096

def dataSpan : Nat := 1024

def programAddress (address : Int) : Nat := (address % programSpan).toNat

def dataAddress (address : Int) : Nat := (address % dataSpan).toNat

theorem programAddress_lt (address : Int) : programAddress address < programSpan := by
  unfold programAddress programSpan
  omega

theorem dataAddress_lt (address : Int) : dataAddress address < dataSpan := by
  unfold dataAddress dataSpan
  omega

theorem programAddress_of_lt {address : Nat} (bound : address < programSpan) :
    programAddress address = address := by
  unfold programSpan at bound
  unfold programAddress programSpan
  omega

theorem dataAddress_of_lt {address : Nat} (bound : address < dataSpan) :
    dataAddress address = address := by
  unfold dataSpan at bound
  unfold dataAddress dataSpan
  omega

def hexDigit (value : Nat) : Char :=
  if value < 10 then Char.ofNat (48 + value) else Char.ofNat (55 + value)

def Word.hex (word : Word) : String :=
  let value := word.toNat
  String.ofList
    [hexDigit (value / 4096 % 16), hexDigit (value / 256 % 16),
      hexDigit (value / 16 % 16), hexDigit (value % 16)]

end HarvardBench
