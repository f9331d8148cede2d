import HarvardBench.Memory.Bus
import HarvardBench.Proofs.Attempt

/-! The operations of the memories and of the bus, as the procedures that they are.

A memory checks the address, then the value, and then stores. The bus reduces both first, and asks a
memory only for what it has, so no check of the memory fails behind it. Each procedure is shown to be
all or nothing, with the outcome of the function of the memory or of the bus that it goes with.
-/

set_option autoImplicit false

namespace HarvardBench

def Device.cell (device : Device) (size : Nat) (address : Int) : Except DeviceError (Fin size) :=
  match cellIndex? size address with
  | some index => .ok index
  | none => .error (.address device address size)

def content {width : Nat} (refusal : Int → DeviceError) (data : Int) : Except DeviceError (BitVec width) :=
  match bits? width data with
  | some value => .ok value
  | none => .error (refusal data)

theorem cellIndex?_natCast {size address : Nat} (inside : address < size) :
    cellIndex? size address = some ⟨address, inside⟩ := by
  rw [cellIndex?, dif_pos (by omega)]
  rfl

theorem content_emod (refusal : Int → DeviceError) (data : Int) :
    content refusal (data % 256) = .ok (BitVec.ofInt 8 data) := by
  have small : 0 ≤ data % 256 ∧ (data % 256).toNat < 1 <<< 8 := by omega
  have same : BitVec.ofInt 8 (data % 256) = BitVec.ofInt 8 data := by
    apply BitVec.eq_of_toNat_eq
    simp only [BitVec.toNat_ofInt]
    omega
  rw [content, bits?, if_pos small, same]

theorem setIfInBounds_cell {width : Nat} (cells : Array (BitVec width)) (index : Fin cells.size)
    (value : BitVec width) : cells.setIfInBounds index value = cells.set index value :=
  dif_pos index.isLt

namespace Ram

variable (ram : Ram)

theorem read_eq (address : Int) :
    ram.read address = (Device.ram.cell ram.bytes.size address).map fun index => ram.byteAt index.val := by
  unfold read Device.cell
  cases cellIndex? ram.bytes.size address with
  | none => rfl
  | some index => simp [Except.map, byteAt]

theorem write_eq (address data : Int) :
    ram.write address data = do
      let index ← Device.ram.cell ram.bytes.size address
      let byte ← content .byte data
      return ram.put index byte := by
  unfold write Device.cell content
  cases cellIndex? ram.bytes.size address with
  | none => rfl
  | some index =>
    cases bits? 8 data with
    | none => rfl
    | some byte =>
      change _ = Except.ok (Ram.mk (ram.bytes.setIfInBounds index byte))
      rw [setIfInBounds_cell]

theorem fill_eq (value : Int) : ram.fill value = (content .byte value).map ram.fillWith := by
  unfold fill content
  cases bits? 8 value <;> rfl

end Ram

namespace Rom

variable (rom : Rom)

theorem read_eq (address : Int) :
    rom.read address = (Device.rom.cell rom.words.size address).map fun index => rom.wordAt index.val := by
  unfold read Device.cell
  cases cellIndex? rom.words.size address with
  | none => rfl
  | some index => simp [Except.map, wordAt]

theorem write_eq (address data : Int) :
    rom.write address data = (Device.rom.cell rom.words.size address).map fun _ => rom := by
  unfold write Device.cell
  cases cellIndex? rom.words.size address <;> rfl

theorem loadWord_eq (address data : Int) :
    rom.loadWord address data = do
      let index ← Device.rom.cell rom.words.size address
      let word ← content .word data
      return ⟨rom.words.setIfInBounds index word⟩ := by
  unfold loadWord Device.cell content
  cases cellIndex? rom.words.size address with
  | none => rfl
  | some index =>
    cases bits? 16 data with
    | none => rfl
    | some word =>
      change _ = Except.ok (Rom.mk (rom.words.setIfInBounds index word))
      rw [setIfInBounds_cell]

def taking (codes : List Int) : Attempt Rom ImageError Unit := do
  let rom ← get
  Attempt.check (if rom.size < codes.length then .error (.tooLong codes.length rom.size) else .ok ())
  let words ← Attempt.check (wordsFrom 0 codes)
  set (filled rom.size words)

theorem taking_eq (codes : List Int) :
    taking codes = .allOrNothing fun rom => (rom.load codes).map fun loaded => ((), loaded) := by
  funext rom
  rw [taking, Attempt.get_bind_apply]
  unfold load Attempt.allOrNothing
  -- Both checks come before the content is replaced.
  by_cases long : rom.size < codes.length
  · simp only [if_pos long]
    rfl
  · simp only [if_neg long]
    cases wordsFrom 0 codes <;> rfl

end Rom

/-! ## The cells of either memory -/

namespace Cells

variable {width : Nat} (refusal : Int → DeviceError) (device : Device)

def reading (address : Int) : Attempt (Array (BitVec width)) DeviceError (BitVec width) := do
  let cells ← get
  let index ← Attempt.check (device.cell cells.size address)
  return cells[index]

def storing (address data : Int) : Attempt (Array (BitVec width)) DeviceError Unit := do
  let cells ← get
  let index ← Attempt.check (device.cell cells.size address)
  let value ← Attempt.check (content refusal data)
  set (cells.set index value)

def ignoring (address : Int) : Attempt (Array (BitVec width)) DeviceError Unit := do
  let cells ← get
  discard (Attempt.check (device.cell cells.size address))

def filling (value : Int) : Attempt (Array (BitVec width)) DeviceError Unit := do
  let cell ← Attempt.check (content refusal value)
  modify fun cells => Array.replicate cells.size cell

def peeking (address : Nat) : Attempt (Array (BitVec width)) DeviceError (BitVec width) := do
  let cells ← get
  if cells.size ≤ address then return 0 else reading device address

def loading (address : Nat) (data : Int) : Attempt (Array Byte) DeviceError Unit := do
  let cells ← get
  if address < cells.size then storing .byte .ram address (data % 256)

theorem reading_eq (address : Int) :
    (reading device address : Attempt (Array (BitVec width)) _ _) = .allOrNothing fun cells =>
      (device.cell cells.size address).map fun index => (cells[index.val]?.getD 0, cells) := by
  funext cells
  rw [reading, Attempt.get_bind_apply, Attempt.allOrNothing]
  cases device.cell cells.size address with
  | error failure => rfl
  | ok index =>
    rw [Except.map, Array.getElem?_eq_getElem index.isLt]
    rfl

theorem storing_eq (address data : Int) :
    (storing refusal device address data : Attempt (Array (BitVec width)) _ _) = .allOrNothing fun cells => do
      let index ← device.cell cells.size address
      let value ← content refusal data
      return ((), cells.setIfInBounds index value) := by
  funext cells
  rw [storing, Attempt.get_bind_apply, Attempt.allOrNothing]
  -- Both checks come before the cell is set.
  cases device.cell cells.size address with
  | error failure => rfl
  | ok index =>
    cases content refusal data with
    | error failure => rfl
    | ok value =>
      change _ = (Except.ok (), cells.setIfInBounds index value)
      rw [setIfInBounds_cell]
      rfl

theorem ignoring_eq (address : Int) :
    (ignoring device address : Attempt (Array (BitVec width)) _ _) = .allOrNothing fun cells =>
      (device.cell cells.size address).map fun _ => ((), cells) := by
  funext cells
  rw [ignoring, Attempt.get_bind_apply, Attempt.allOrNothing]
  cases device.cell cells.size address <;> rfl

theorem filling_eq (value : Int) :
    (filling refusal value : Attempt (Array (BitVec width)) _ _) = .allOrNothing fun cells =>
      (content refusal value).map fun cell => ((), Array.replicate cells.size cell) := by
  funext cells
  rw [filling, Attempt.bind_apply, Attempt.check, Attempt.allOrNothing]
  cases content refusal value <;> rfl

/-- Only what a memory has is asked of it, so its check passes. -/
theorem peeking_eq (address : Nat) :
    (peeking device address : Attempt (Array (BitVec width)) _ _) =
      .allOrNothing fun cells => .ok (cells[address]?.getD 0, cells) := by
  funext cells
  rw [peeking, Attempt.get_bind_apply]
  by_cases outside : cells.size ≤ address
  · have zero : cells[address]?.getD 0 = 0 := by
      rw [Array.getElem?_eq_none outside]
      rfl
    simp only [if_pos outside, Attempt.allOrNothing, zero]
    rfl
  · have inside := Nat.lt_of_not_le outside
    simp only [if_neg outside, reading_eq, Attempt.allOrNothing, Device.cell, cellIndex?_natCast inside]
    rfl

theorem loading_eq (address : Nat) (data : Int) :
    loading address data =
      .allOrNothing fun cells => .ok ((), cells.setIfInBounds address (BitVec.ofInt 8 data)) := by
  funext cells
  rw [loading, Attempt.get_bind_apply]
  by_cases inside : address < cells.size
  · rw [if_pos inside, storing_eq, Attempt.allOrNothing, Device.cell, cellIndex?_natCast inside, content_emod]
    rfl
  · rw [if_neg inside, Attempt.allOrNothing, Array.setIfInBounds, dif_neg inside]
    rfl

end Cells

/-! ## The bus -/

namespace Bus

variable {ε α : Type}

def onRam (attempt : Attempt (Array Byte) ε α) : Attempt Bus ε α :=
  .within (fun bus => bus.ram.bytes) (fun bus bytes => { bus with ram := ⟨bytes⟩ }) attempt

def onRom (attempt : Attempt (Array Word) ε α) : Attempt Bus ε α :=
  .within (fun bus => bus.rom.words) (fun bus words => { bus with rom := ⟨words⟩ }) attempt

def peekingWord (address : Int) : Attempt Bus DeviceError Word :=
  onRom (Cells.peeking .rom (programAddress address))

def fetching (address : Int) : Attempt Bus DeviceError Word := do
  let word ← peekingWord (programAddress address)
  modify fun bus => bus.record (.fetch (programAddress address) word)
  return word

def peeking (address : Int) : Attempt Bus DeviceError Byte :=
  onRam (Cells.peeking .ram (dataAddress address))

def reading (address : Int) : Attempt Bus DeviceError Byte := do
  let byte ← peeking (dataAddress address)
  modify fun bus => bus.record (.read (dataAddress address) byte)
  return byte

def loading (address data : Int) : Attempt Bus DeviceError Unit :=
  onRam (Cells.loading (dataAddress address) data)

def writing (address data : Int) : Attempt Bus DeviceError Unit := do
  let previous ← peeking (dataAddress address)
  loading (dataAddress address) data
  modify fun bus => bus.record (.write (dataAddress address) (BitVec.ofInt 8 data) previous)

variable (address data : Int)

theorem onRam_allOrNothing (outcome : Array Byte → Except ε (α × Array Byte)) :
    onRam (.allOrNothing outcome) = .allOrNothing fun bus =>
      (outcome bus.ram.bytes).map fun (value, bytes) => (value, { bus with ram := ⟨bytes⟩ }) :=
  Attempt.within_allOrNothing (fun _ => rfl) outcome

theorem onRom_allOrNothing (outcome : Array Word → Except ε (α × Array Word)) :
    onRom (.allOrNothing outcome) = .allOrNothing fun bus =>
      (outcome bus.rom.words).map fun (value, words) => (value, { bus with rom := ⟨words⟩ }) :=
  Attempt.within_allOrNothing (fun _ => rfl) outcome

theorem onRam_reading :
    onRam (Cells.reading .ram address) = .allOrNothing fun bus => (bus.ram.read address).map (·, bus) := by
  rw [Cells.reading_eq, onRam_allOrNothing]
  congr 1
  funext bus
  rw [Ram.read_eq]
  cases Device.ram.cell bus.ram.bytes.size address <;> rfl

theorem onRam_storing :
    onRam (Cells.storing .byte .ram address data) = .allOrNothing fun bus =>
      (bus.ram.write address data).map fun ram => ((), { bus with ram }) := by
  rw [Cells.storing_eq, onRam_allOrNothing]
  congr 1
  funext bus
  rw [Ram.write_eq]
  cases Device.ram.cell bus.ram.bytes.size address with
  | error failure => rfl
  | ok index => cases (content .byte data : Except DeviceError Byte) <;> rfl

theorem onRam_filling :
    onRam (Cells.filling .byte data) = .allOrNothing fun bus =>
      (bus.ram.fill data).map fun ram => ((), { bus with ram }) := by
  rw [Cells.filling_eq, onRam_allOrNothing]
  congr 1
  funext bus
  rw [Ram.fill_eq]
  cases (content .byte data : Except DeviceError Byte) <;> rfl

theorem onRom_reading :
    onRom (Cells.reading .rom address) = .allOrNothing fun bus => (bus.rom.read address).map (·, bus) := by
  rw [Cells.reading_eq, onRom_allOrNothing]
  congr 1
  funext bus
  rw [Rom.read_eq]
  cases Device.rom.cell bus.rom.words.size address <;> rfl

theorem onRom_ignoring :
    onRom (Cells.ignoring .rom address) = .allOrNothing fun bus =>
      (bus.rom.write address data).map fun rom => ((), { bus with rom }) := by
  rw [Cells.ignoring_eq, onRom_allOrNothing]
  congr 1
  funext bus
  rw [Rom.write_eq]
  cases Device.rom.cell bus.rom.words.size address <;> rfl

theorem onRom_storing :
    onRom (Cells.storing .word .rom address data) = .allOrNothing fun bus =>
      (bus.rom.loadWord address data).map fun rom => ((), { bus with rom }) := by
  rw [Cells.storing_eq, onRom_allOrNothing]
  congr 1
  funext bus
  rw [Rom.loadWord_eq]
  cases Device.rom.cell bus.rom.words.size address with
  | error failure => rfl
  | ok index => cases (content .word data : Except DeviceError Word) <;> rfl

theorem within_taking (codes : List Int) :
    Attempt.within Bus.rom (fun bus rom => { bus with rom }) (Rom.taking codes) = .allOrNothing fun bus =>
      (bus.rom.load codes).map fun rom => ((), { bus with rom }) := by
  rw [Rom.taking_eq, Attempt.within_allOrNothing fun _ => rfl]
  congr 1
  funext bus
  cases bus.rom.load codes <;> rfl

theorem peekingWord_eq : peekingWord address = .allOrNothing fun bus => .ok (bus.peekWord address, bus) := by
  rw [peekingWord, Cells.peeking_eq, onRom_allOrNothing]
  rfl

theorem peeking_eq : peeking address = .allOrNothing fun bus => .ok (bus.peek address, bus) := by
  rw [peeking, Cells.peeking_eq, onRam_allOrNothing]
  rfl

theorem loading_eq : loading address data = .allOrNothing fun bus => .ok ((), bus.load address data) := by
  rw [loading, Cells.loading_eq, onRam_allOrNothing]
  rfl

theorem fetching_eq : fetching address = .allOrNothing fun bus => .ok (bus.fetch address) := by
  funext bus
  rw [fetching, peekingWord_eq, Attempt.bind_apply, Attempt.allOrNothing, peekWord,
    programAddress_of_lt (programAddress_lt address)]
  rfl

theorem reading_eq : reading address = .allOrNothing fun bus => .ok (bus.read address) := by
  funext bus
  rw [reading, peeking_eq, Attempt.bind_apply, Attempt.allOrNothing, peek,
    dataAddress_of_lt (dataAddress_lt address)]
  rfl

theorem writing_eq : writing address data = .allOrNothing fun bus => .ok ((), bus.write address data) := by
  funext bus
  rw [writing, peeking_eq, loading_eq, Attempt.bind_apply]
  simp only [Attempt.allOrNothing, write, load, peek, dataAddress_of_lt (dataAddress_lt address)]
  rfl

end Bus

end HarvardBench
