import HarvardBench.Memory.Device

/-! The program memory: a row of words that only loading changes. -/

set_option autoImplicit false

namespace HarvardBench

structure Rom where
  words : Array Word
  deriving DecidableEq, Repr

namespace Rom

def size (rom : Rom) : Nat := rom.words.size

def zeroed (size : Nat) : Rom := ⟨Array.replicate size 0⟩

def create [Host] (size : Option Int) : Except DeviceError Rom :=
  match cellCount? size with
  | some cells => do
    (checkCapacity cells).mapError .capacity
    return zeroed cells
  | none => .error (.size .rom)

def read (rom : Rom) (address : Int) : Except DeviceError Word :=
  match cellIndex? rom.words.size address with
  | some index => .ok rom.words[index]
  | none => .error (.address .rom address rom.size)

/-- Writing checks the address and stores nothing. -/
def write (rom : Rom) (address _data : Int) : Except DeviceError Rom :=
  match cellIndex? rom.words.size address with
  | some _ => .ok rom
  | none => .error (.address .rom address rom.size)

def loadWord (rom : Rom) (address data : Int) : Except DeviceError Rom :=
  match cellIndex? rom.words.size address with
  | none => .error (.address .rom address rom.size)
  | some index =>
    match bits? 16 data with
    | none => .error (.word data)
    | some word => .ok ⟨rom.words.set index word⟩

def wordsFrom (start : Nat) : List Int → Except ImageError (List Word)
  | [] => .ok []
  | value :: rest =>
    match bits? 16 value with
    | none => .error (.notWord value start)
    | some word => (wordsFrom (start + 1) rest).map (word :: ·)

/-- Put words at the front and zeros behind them. -/
def filled (size : Nat) (words : List Word) : Rom :=
  ⟨(words ++ List.replicate (size - words.length) 0).toArray⟩

/-- Replace the whole content. The length is checked before the words. -/
def load (rom : Rom) (values : List Int) : Except ImageError Rom :=
  if rom.size < values.length then .error (.tooLong values.length rom.size)
  else (wordsFrom 0 values).map (filled rom.size)

def loadWords (rom : Rom) (words : List Word) : Except ImageError Rom :=
  if rom.size < words.length then .error (.tooLong words.length rom.size)
  else .ok (filled rom.size words)

def wordAt (rom : Rom) (index : Nat) : Word := rom.words[index]?.getD 0

def usedWords (rom : Rom) : List Word :=
  (rom.words.toList.reverse.dropWhile (· == 0)).reverse

@[simp] theorem size_zeroed (size : Nat) : (zeroed size).size = size := by
  simp [zeroed, Rom.size]

theorem size_filled {size : Nat} {words : List Word} (fits : words.length ≤ size) :
    (filled size words).size = size := by
  simp [filled, Rom.size]
  omega

end Rom

end HarvardBench
