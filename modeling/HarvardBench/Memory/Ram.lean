import HarvardBench.Memory.Device

/-! The data memory: a row of bytes. -/

set_option autoImplicit false

namespace HarvardBench

structure Ram where
  bytes : Array Byte
  deriving DecidableEq, Repr

namespace Ram

def size (ram : Ram) : Nat := ram.bytes.size

def zeroed (size : Nat) : Ram := ⟨Array.replicate size 0⟩

def create [Host] (size : Option Int) : Except DeviceError Ram :=
  match cellCount? size with
  | some cells => do
    (checkCapacity cells).mapError .capacity
    return zeroed cells
  | none => .error (.size .ram)

def read (ram : Ram) (address : Int) : Except DeviceError Byte :=
  match cellIndex? ram.bytes.size address with
  | some index => .ok ram.bytes[index]
  | none => .error (.address .ram address ram.size)

def write (ram : Ram) (address data : Int) : Except DeviceError Ram :=
  match cellIndex? ram.bytes.size address with
  | none => .error (.address .ram address ram.size)
  | some index =>
    match bits? 8 data with
    | none => .error (.byte data)
    | some byte => .ok ⟨ram.bytes.set index byte⟩

def fillWith (ram : Ram) (byte : Byte) : Ram := ⟨Array.replicate ram.size byte⟩

def fill (ram : Ram) (value : Int) : Except DeviceError Ram :=
  match bits? 8 value with
  | none => .error (.byte value)
  | some byte => .ok (ram.fillWith byte)

def byteAt (ram : Ram) (index : Nat) : Byte := ram.bytes[index]?.getD 0

def put (ram : Ram) (index : Nat) (byte : Byte) : Ram := ⟨ram.bytes.setIfInBounds index byte⟩

@[simp] theorem size_zeroed (size : Nat) : (zeroed size).size = size := by
  simp [zeroed, Ram.size]

@[simp] theorem size_put (ram : Ram) (index : Nat) (byte : Byte) : (ram.put index byte).size = ram.size := by
  simp [put, Ram.size]

@[simp] theorem size_fillWith (ram : Ram) (byte : Byte) : (ram.fillWith byte).size = ram.size := by
  simp [fillWith, Ram.size]

theorem byteAt_put (ram : Ram) (index other : Nat) (byte : Byte) :
    (ram.put index byte).byteAt other =
      if index = other ∧ index < ram.size then byte else ram.byteAt other := by
  unfold put byteAt size
  by_cases same : index = other
  · subst same
    by_cases inside : index < ram.bytes.size <;> simp [inside]
  · simp [same]

/-- The maximal runs of one non-zero byte, as start, length and value. -/
def runs (ram : Ram) : List (Nat × Nat × Byte) :=
  (ram.bytes.toList.foldl extend (0, [])).2.reverse
where
  extend : Nat × List (Nat × Nat × Byte) → Byte → Nat × List (Nat × Nat × Byte)
    | (index, found), byte =>
      if byte = 0 then (index + 1, found)
      else match found with
        | (start, count, value) :: rest =>
          if value = byte ∧ start + count = index then (index + 1, (start, count + 1, value) :: rest)
          else (index + 1, (index, 1, byte) :: found)
        | [] => (index + 1, [(index, 1, byte)])

end Ram

end HarvardBench
