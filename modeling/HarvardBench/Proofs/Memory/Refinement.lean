import Mathlib.Algebra.Group.Nat.Defs
import Mathlib.Logic.Function.Basic
import HarvardBench.Proofs.Failure
import HarvardBench.Proofs.Memory.Procedures
import HarvardBench.Proofs.Memory.Trace

/-! The memories as partial maps.

What can be done to the memories, on their own or through the bus, is given a meaning on maps from the
addresses of a memory to the values stored there last. The procedures of the memories and of the bus
answer and fail as these maps do, after any operations before, and an operation that fails has changed
nothing by then.
-/

set_option autoImplicit false

namespace HarvardBench

/-- What is done to the memories, or through the bus. -/
inductive Operation where
  | readRam (address : Int)
  | writeRam (address data : Int)
  | fillRam (value : Int)
  | readRom (address : Int)
  | writeRom (address data : Int)
  | loadWord (address data : Int)
  | loadRom (values : List Int)
  | ask (request : Bus.Request)
  | load (address data : Int)
  deriving DecidableEq, Repr

inductive Operation.Refusal where
  | device (cause : DeviceError)
  | image (cause : ImageError)
  deriving DecidableEq, Repr

open Operation (Refusal)

/-! ## The meaning -/

/-- A memory as the values stored last at the addresses that it has. -/
structure Contents where
  size : Nat
  held : Int → Option Nat

namespace Contents

def find (device : Device) (contents : Contents) (address : Int) : Except Refusal Nat :=
  match contents.held address with
  | some value => .ok value
  | none => .error (.device (.address device address contents.size))

def store (contents : Contents) (address : Int) (value : Nat) : Contents :=
  { contents with held := Function.update contents.held address (some value) }

def storeIfHeld (contents : Contents) (address : Int) (value : Nat) : Contents :=
  if (contents.held address).isSome then contents.store address value else contents

def replace (contents : Contents) (value : Int → Nat) : Contents :=
  { contents with held := fun address => (contents.held address).map fun _ => value address }

variable {contents : Contents} {address other : Int} {value : Nat}

theorem held_store_self : (contents.store address value).held address = some value := Function.update_self ..

theorem held_store_of_ne (different : other ≠ address) :
    (contents.store address value).held other = contents.held other := Function.update_of_ne different ..

theorem held_replace (values : Int → Nat) :
    (contents.replace values).held address = (contents.held address).map fun _ => values address := rfl

/-- The values have a bound, and they stand at the addresses up to a size. -/
structure Sized (contents : Contents) (cells bound : Nat) : Prop where
  size : contents.size = cells
  addresses : ∀ address, (contents.held address).isSome ↔ 0 ≤ address ∧ address < cells
  values : ∀ address value, contents.held address = some value → value < bound

end Contents

structure Maps where
  ram : Contents
  rom : Contents

namespace Operation

def accept (bound : Nat) (refusal : Int → DeviceError) (data : Int) : Except Refusal Nat :=
  if 0 ≤ data ∧ data < bound then .ok data.toNat else .error (.device (refusal data))

def misfit? (start : Nat) (values : List Int) : Option (Int × Nat) :=
  (values.zipIdx start).find? fun entry => ¬(0 ≤ entry.1 ∧ entry.1 < 65536)

def done (maps : Maps) : Except Refusal (Option Nat × Maps) := .ok (none, maps)

/-- The bus reduces addresses and values, and refuses nothing. -/
def expectAsked (maps : Maps) : Bus.Request → Option Nat × Maps
  | .fetch address | .peekWord address => (some ((maps.rom.held (address % programSpan)).getD 0), maps)
  | .read address | .peek address => (some ((maps.ram.held (address % dataSpan)).getD 0), maps)
  | .write address data =>
    (none, { maps with ram := maps.ram.storeIfHeld (address % dataSpan) (data % 256).toNat })

/-- What an operation answers and leaves, or why it is refused. -/
def expect (operation : Operation) (maps : Maps) : Except Refusal (Option Nat × Maps) :=
  match operation with
  | .readRam address => do
    let value ← maps.ram.find .ram address
    return (some value, maps)
  | .writeRam address data => do
    let _ ← maps.ram.find .ram address
    let byte ← accept 256 .byte data
    done { maps with ram := maps.ram.store address byte }
  | .fillRam value => do
    let byte ← accept 256 .byte value
    done { maps with ram := maps.ram.replace fun _ => byte }
  | .readRom address => do
    let value ← maps.rom.find .rom address
    return (some value, maps)
  | .writeRom address _ => do
    let _ ← maps.rom.find .rom address
    done maps
  | .loadWord address data => do
    let _ ← maps.rom.find .rom address
    let word ← accept 65536 .word data
    done { maps with rom := maps.rom.store address word }
  | .loadRom values =>
    if maps.rom.size < values.length then .error (.image (.tooLong values.length maps.rom.size))
    else match misfit? 0 values with
      | some (value, index) => .error (.image (.notWord value index))
      | none => done { maps with rom := maps.rom.replace fun address => (values.getD address.toNat 0).toNat }
  | .ask request => .ok (expectAsked maps request)
  | .load address data =>
    done { maps with ram := maps.ram.storeIfHeld (address % dataSpan) (data % 256).toNat }

def Refused (ramSize romSize : Nat) : Operation → Prop
  | .readRam address => ¬(0 ≤ address ∧ address < ramSize)
  | .writeRam address data => ¬(0 ≤ address ∧ address < ramSize) ∨ ¬(0 ≤ data ∧ data < 256)
  | .fillRam value => ¬(0 ≤ value ∧ value < 256)
  | .readRom address | .writeRom address _ => ¬(0 ≤ address ∧ address < romSize)
  | .loadWord address data => ¬(0 ≤ address ∧ address < romSize) ∨ ¬(0 ≤ data ∧ data < 65536)
  | .loadRom values => romSize < values.length ∨ ∃ value ∈ values, ¬(0 ≤ value ∧ value < 65536)
  | .ask _ | .load .. => False

/-! ## The procedures -/

def asking : Bus.Request → Attempt Bus DeviceError (Option Nat)
  | .fetch address => do return some (← Bus.fetching address).toNat
  | .read address => do return some (← Bus.reading address).toNat
  | .write address data => do
    Bus.writing address data
    return none
  | .peekWord address => do return some (← Bus.peekingWord address).toNat
  | .peek address => do return some (← Bus.peeking address).toNat

def perform : Operation → Attempt Bus Refusal (Option Nat)
  | .readRam address => do
    let byte ← (Bus.onRam (Cells.reading .ram address)).adapt .device
    return some byte.toNat
  | .writeRam address data => do
    (Bus.onRam (Cells.storing .byte .ram address data)).adapt .device
    return none
  | .fillRam value => do
    (Bus.onRam (Cells.filling .byte value)).adapt .device
    return none
  | .readRom address => do
    let word ← (Bus.onRom (Cells.reading .rom address)).adapt .device
    return some word.toNat
  | .writeRom address _ => do
    (Bus.onRom (Cells.ignoring .rom address)).adapt .device
    return none
  | .loadWord address data => do
    (Bus.onRom (Cells.storing .word .rom address data)).adapt .device
    return none
  | .loadRom values => do
    (Attempt.within Bus.rom (fun bus rom => { bus with rom }) (Rom.taking values)).adapt .image
    return none
  | .ask request => (asking request).adapt .device
  | .load address data => do
    (Bus.loading address data).adapt .device
    return none

def answer (bus : Bus) : Bus.Request → Option Nat
  | .fetch address => some (bus.fetch address).1.toNat
  | .read address => some (bus.read address).1.toNat
  | .write .. => none
  | .peekWord address => some (bus.peekWord address).toNat
  | .peek address => some (bus.peek address).toNat

def outcome (operation : Operation) (bus : Bus) : Except Refusal (Option Nat × Bus) :=
  match operation with
  | .readRam address => ((bus.ram.read address).mapError .device).map fun byte => (some byte.toNat, bus)
  | .writeRam address data => ((bus.ram.write address data).mapError .device).map fun ram => (none, { bus with ram })
  | .fillRam value => ((bus.ram.fill value).mapError .device).map fun ram => (none, { bus with ram })
  | .readRom address => ((bus.rom.read address).mapError .device).map fun word => (some word.toNat, bus)
  | .writeRom address data => ((bus.rom.write address data).mapError .device).map fun rom => (none, { bus with rom })
  | .loadWord address data =>
    ((bus.rom.loadWord address data).mapError .device).map fun rom => (none, { bus with rom })
  | .loadRom values => ((bus.rom.load values).mapError .image).map fun rom => (none, { bus with rom })
  | .ask request => .ok (answer bus request, request.serve bus)
  | .load address data => .ok (none, bus.load address data)

theorem asking_eq (request : Bus.Request) :
    asking request = .allOrNothing fun bus => .ok (answer bus request, request.serve bus) := by
  cases request with
  | fetch address => rw [asking, Bus.fetching_eq, Attempt.allOrNothing_bind_pure]; rfl
  | read address => rw [asking, Bus.reading_eq, Attempt.allOrNothing_bind_pure]; rfl
  | write address data => rw [asking, Bus.writing_eq, Attempt.allOrNothing_bind_pure]; rfl
  | peekWord address => rw [asking, Bus.peekingWord_eq, Attempt.allOrNothing_bind_pure]; rfl
  | peek address => rw [asking, Bus.peeking_eq, Attempt.allOrNothing_bind_pure]; rfl

/-- Each procedure is all or nothing, with the outcome of the functions. -/
theorem perform_eq (operation : Operation) : operation.perform = .allOrNothing operation.outcome := by
  cases operation with
  | readRam address => rw [perform, Bus.onRam_reading, Attempt.adapt_bind_pure]; rfl
  | writeRam address data => rw [perform, Bus.onRam_storing, Attempt.adapt_bind_pure]; rfl
  | fillRam value => rw [perform, Bus.onRam_filling, Attempt.adapt_bind_pure]; rfl
  | readRom address => rw [perform, Bus.onRom_reading, Attempt.adapt_bind_pure]; rfl
  | writeRom address data => rw [perform, Bus.onRom_ignoring address data, Attempt.adapt_bind_pure]; rfl
  | loadWord address data => rw [perform, Bus.onRom_storing, Attempt.adapt_bind_pure]; rfl
  | loadRom values => rw [perform, Bus.within_taking, Attempt.adapt_bind_pure]; rfl
  | ask request => rw [perform, asking_eq, Attempt.adapt_allOrNothing]; rfl
  | load address data => rw [perform, Bus.loading_eq, Attempt.adapt_allOrNothing, Attempt.allOrNothing_bind_pure]; rfl

end Operation

/-! ## The two agree -/

def contents {width : Nat} (cells : Array (BitVec width)) : Contents where
  size := cells.size
  held := fun address => if 0 ≤ address then cells[address.toNat]?.map BitVec.toNat else none

def Bus.maps (bus : Bus) : Maps := ⟨contents bus.ram.bytes, contents bus.rom.words⟩

theorem Device.cell_cases (device : Device) (size : Nat) (address : Int) :
    (∃ index : Fin size, device.cell size address = .ok index ∧ address = index) ∨
      (device.cell size address = .error (.address device address size) ∧ ¬(0 ≤ address ∧ address < size)) := by
  unfold Device.cell cellIndex?
  by_cases inside : 0 ≤ address ∧ address < size
  · exact .inl ⟨⟨address.toNat, by omega⟩, by rw [dif_pos inside], (Int.toNat_of_nonneg inside.1).symm⟩
  · exact .inr ⟨by rw [dif_neg inside], inside⟩

theorem content_cases (width : Nat) (refusal : Int → DeviceError) (data : Int) :
    (∃ value : BitVec width, (content refusal data : Except DeviceError (BitVec width)) = .ok value ∧
        data = value.toNat) ∨
      ((content refusal data : Except DeviceError (BitVec width)) = .error (refusal data) ∧
        ¬(0 ≤ data ∧ data < (2 ^ width : Nat))) := by
  unfold content bits?
  rw [Nat.one_shiftLeft]
  by_cases inside : 0 ≤ data ∧ data < (2 ^ width : Nat)
  · refine .inl ⟨BitVec.ofInt width data, by rw [if_pos ⟨inside.1, by omega⟩], ?_⟩
    rw [BitVec.toNat_ofInt, Int.emod_eq_of_lt inside.1 (by exact_mod_cast inside.2), Int.toNat_of_nonneg inside.1]
  · exact .inr ⟨by rw [if_neg (by omega)], inside⟩

section Cells

variable {width : Nat} {cells : Array (BitVec width)}

theorem address_cases (address : Int) : address < 0 ∨ ∃ position : Nat, address = position :=
  (Int.lt_or_le address 0).imp_right Int.eq_ofNat_of_zero_le

theorem held_natCast (position : Nat) : (contents cells).held position = cells[position]?.map BitVec.toNat := by
  simp only [contents, Int.natCast_nonneg, if_true, Int.toNat_natCast]

theorem held_of_neg {address : Int} (negative : address < 0) : (contents cells).held address = none :=
  if_neg (Int.not_le.mpr negative)

theorem held_cell (index : Fin cells.size) :
    (contents cells).held index = some (cells[index.val]?.getD 0).toNat := by
  rw [held_natCast, Array.getElem?_eq_getElem index.isLt]
  rfl

theorem held_outside {address : Int} (outside : ¬(0 ≤ address ∧ address < cells.size)) :
    (contents cells).held address = none := by
  obtain negative | ⟨position, rfl⟩ := address_cases address
  · exact held_of_neg negative
  · rw [held_natCast, Array.getElem?_eq_none (by omega)]
    rfl

theorem contents_eq {map : Contents} (size : cells.size = map.size)
    (natural : ∀ position : Nat, cells[position]?.map BitVec.toNat = map.held position)
    (negative : ∀ address < 0, map.held address = none) : contents cells = map := by
  have held : (contents cells).held = map.held := by
    funext address
    obtain below | ⟨position, rfl⟩ := address_cases address
    · rw [held_of_neg below, negative address below]
    · exact (held_natCast position).trans (natural position)
  exact congrArg₂ Contents.mk size held

theorem contents_set (index : Fin cells.size) (value : BitVec width) :
    contents (cells.setIfInBounds index value) = (contents cells).store index value.toNat := by
  refine contents_eq Array.size_setIfInBounds (fun position => ?_) fun address below => ?_
  · by_cases same : index.val = position
    · subst same
      rw [Array.getElem?_setIfInBounds_self_of_lt index.isLt, Contents.held_store_self]
      rfl
    · rw [Array.getElem?_setIfInBounds_ne same, Contents.held_store_of_ne (by omega), held_natCast]
  · rw [Contents.held_store_of_ne (by omega), held_of_neg below]

theorem contents_setIfInBounds (position : Nat) (value : BitVec width) :
    contents (cells.setIfInBounds position value) = (contents cells).storeIfHeld position value.toNat := by
  unfold Contents.storeIfHeld
  rw [held_natCast]
  by_cases inside : position < cells.size
  · rw [Array.getElem?_eq_getElem inside, Option.map_some, if_pos Option.isSome_some]
    exact contents_set ⟨position, inside⟩ value
  · rw [Array.getElem?_eq_none (by omega), if_neg (by simp), Array.setIfInBounds, dif_neg inside]

theorem contents_replicate (value : BitVec width) :
    contents (Array.replicate cells.size value) = (contents cells).replace fun _ => value.toNat := by
  refine contents_eq (Array.size_replicate ..) (fun position => ?_) fun address below => ?_
  · rw [Contents.held_replace, held_natCast, Array.getElem?_replicate]
    by_cases inside : position < cells.size
    · rw [if_pos inside, Array.getElem?_eq_getElem inside]
      rfl
    · rw [if_neg inside, Array.getElem?_eq_none (by omega)]
      rfl
  · rw [Contents.held_replace, held_of_neg below]
    rfl

theorem sized_contents : (contents cells).Sized cells.size (2 ^ width) where
  size := rfl
  addresses := by
    intro address
    by_cases inside : 0 ≤ address ∧ address < cells.size
    · obtain ⟨position, rfl⟩ := Int.eq_ofNat_of_zero_le inside.1
      rw [held_cell ⟨position, by omega⟩]
      exact iff_of_true rfl inside
    · rw [held_outside inside]
      exact iff_of_false (by simp) inside
  values := by
    intro address value holds
    obtain below | ⟨position, rfl⟩ := address_cases address
    · rw [held_of_neg below] at holds
      cases holds
    · rw [held_natCast] at holds
      obtain ⟨cell, _, rfl⟩ := Option.map_eq_some_iff.mp holds
      exact cell.isLt

end Cells

/-! ## A whole image -/

theorem wordsFrom_eq (start : Nat) (values : List Int) :
    Rom.wordsFrom start values =
      match Operation.misfit? start values with
      | some (value, index) => .error (.notWord value index)
      | none => .ok (values.map (BitVec.ofInt 16)) := by
  induction values generalizing start with
  | nil => rfl
  | cons value rest ih =>
    rw [Rom.wordsFrom, Operation.misfit?, List.zipIdx_cons, List.find?_cons, ← Operation.misfit?, bits?]
    by_cases fits : 0 ≤ value ∧ value < 65536
    · rw [if_pos (by omega), ih]
      simp only [fits]
      cases Operation.misfit? (start + 1) rest <;> rfl
    · rw [if_neg (by omega)]
      simp only [fits, not_false_eq_true, decide_true]

theorem misfit?_eq_none_iff {values : List Int} :
    Operation.misfit? 0 values = none ↔ ∀ value ∈ values, 0 ≤ value ∧ value < 65536 := by
  rw [Operation.misfit?, List.find?_eq_none]
  constructor
  · intro fine value member
    obtain ⟨index, _, rfl⟩ := List.getElem_of_mem member
    simpa using fine (values[index], index) (List.mk_mem_zipIdx_iff_getElem?.mpr (by simp))
  · intro fit entry member
    simpa using fit entry.1 (List.fst_mem_of_mem_zipIdx member)

theorem contents_filled {rom : Rom} {values : List Int} (short : values.length ≤ rom.size)
    (fit : ∀ value ∈ values, 0 ≤ value ∧ value < 65536) :
    contents (Rom.filled rom.size (values.map (BitVec.ofInt 16))).words =
      (contents rom.words).replace fun address => (values.getD address.toNat 0).toNat := by
  have size : (Rom.filled rom.size (values.map (BitVec.ofInt 16))).size = rom.size :=
    Rom.size_filled (by rwa [List.length_map])
  refine contents_eq size (fun position => ?_) fun address below => ?_
  · rw [Contents.held_replace, held_natCast, Int.toNat_natCast, Rom.filled, List.getElem?_toArray,
      List.getD_eq_getElem?_getD]
    -- Behind the values the words are zero, and so is what the list of values has there.
    by_cases front : position < values.length
    · have value := fit values[position] (List.getElem_mem front)
      have inside : position < rom.words.size := Nat.lt_of_lt_of_le front short
      rw [List.getElem?_append_left (by rwa [List.length_map]), List.getElem?_map, List.getElem?_eq_getElem front,
        Array.getElem?_eq_getElem inside]
      simp only [Option.map_some, Option.getD_some, BitVec.toNat_ofInt]
      congr 2
      omega
    · rw [List.getElem?_append_right (by simpa using front), List.getElem?_replicate, List.length_map,
        List.getElem?_eq_none (Nat.le_of_not_lt front)]
      by_cases inside : position < rom.words.size
      · rw [if_pos (by unfold Rom.size; omega), Array.getElem?_eq_getElem inside]
        rfl
      · rw [if_neg (by unfold Rom.size; omega), Array.getElem?_eq_none (by omega)]
        rfl
  · rw [Contents.held_replace, held_of_neg below]
    rfl

namespace Operation

theorem find_contents {width : Nat} {cells : Array (BitVec width)} (device : Device) (address : Int) :
    (contents cells).find device address =
      ((device.cell cells.size address).mapError Refusal.device).map fun index => (cells[index.val]?.getD 0).toNat := by
  unfold Contents.find
  obtain ⟨index, named, rfl⟩ | ⟨refused, outside⟩ := device.cell_cases cells.size address
  · rw [named, held_cell]
    rfl
  · rw [refused, held_outside outside]
    rfl

theorem accept_eq (width : Nat) (refusal : Int → DeviceError) (data : Int) :
    accept (2 ^ width) refusal data =
      ((content refusal data : Except DeviceError (BitVec width)).mapError Refusal.device).map BitVec.toNat := by
  unfold accept
  obtain ⟨value, stored, rfl⟩ | ⟨refused, outside⟩ := content_cases width refusal data
  · rw [stored, if_pos ⟨Int.natCast_nonneg _, Int.ofNat_lt.mpr value.isLt⟩]
    rfl
  · rw [refused, if_neg outside]
    rfl

theorem accept_byte (data : Int) : accept 256 .byte data =
    ((content .byte data : Except DeviceError Byte).mapError Refusal.device).map BitVec.toNat :=
  accept_eq 8 .byte data

theorem accept_word (data : Int) : accept 65536 .word data =
    ((content .word data : Except DeviceError Word).mapError Refusal.device).map BitVec.toNat :=
  accept_eq 16 .word data

variable (bus : Bus)

theorem programAddress_cast (address : Int) : (programAddress address : Int) = address % programSpan :=
  Int.toNat_of_nonneg (Int.emod_nonneg _ (by decide))

theorem dataAddress_cast (address : Int) : (dataAddress address : Int) = address % dataSpan :=
  Int.toNat_of_nonneg (Int.emod_nonneg _ (by decide))

theorem held_peekWord (address : Int) :
    (bus.maps.rom.held (address % programSpan)).getD 0 = (bus.peekWord address).toNat := by
  rw [← programAddress_cast, Bus.maps, held_natCast, Bus.peekWord, Rom.wordAt]
  cases bus.rom.words[programAddress address]? <;> rfl

theorem held_peek (address : Int) : (bus.maps.ram.held (address % dataSpan)).getD 0 = (bus.peek address).toNat := by
  rw [← dataAddress_cast, Bus.maps, held_natCast, Bus.peek, Ram.byteAt]
  cases bus.ram.bytes[dataAddress address]? <;> rfl

theorem maps_load (address data : Int) : (bus.load address data).maps =
    { bus.maps with ram := bus.maps.ram.storeIfHeld (address % dataSpan) (data % 256).toNat } := by
  have stored : contents (bus.ram.bytes.setIfInBounds (dataAddress address) (BitVec.ofInt 8 data)) = _ :=
    contents_setIfInBounds _ _
  rw [dataAddress_cast, BitVec.toNat_ofInt] at stored
  exact congrArg (fun ram => Maps.mk ram _) stored

theorem expectAsked_maps (request : Bus.Request) :
    expectAsked bus.maps request = (answer bus request, (request.serve bus).maps) := by
  cases request with
  | fetch address | peekWord address => exact congrArg (some · , bus.maps) (held_peekWord bus address)
  | read address | peek address => exact congrArg (some · , bus.maps) (held_peek bus address)
  | write address data => exact congrArg (Prod.mk none) (maps_load bus address data).symm

theorem expect_maps (operation : Operation) :
    operation.expect bus.maps = (operation.outcome bus).map fun (answer, next) => (answer, next.maps) := by
  cases operation with
  | readRam address =>
    rw [expect, outcome, Ram.read_eq, Bus.maps, find_contents]
    cases Device.ram.cell bus.ram.bytes.size address <;> rfl
  | writeRam address data =>
    rw [expect, outcome, Ram.write_eq, Bus.maps, find_contents, accept_byte]
    obtain ⟨index, named, rfl⟩ | ⟨refused, _⟩ := Device.ram.cell_cases bus.ram.bytes.size address
    · rw [named]
      cases (content .byte data : Except DeviceError Byte) with
      | error failure => rfl
      | ok byte => exact congrArg (fun ram => done ⟨ram, _⟩) (contents_set index byte).symm
    · rw [refused]
      rfl
  | fillRam value =>
    rw [expect, outcome, Ram.fill_eq, Bus.maps, accept_byte]
    cases (content .byte value : Except DeviceError Byte) with
    | error failure => rfl
    | ok byte => exact congrArg (fun ram => done ⟨ram, _⟩) (contents_replicate byte).symm
  | readRom address =>
    rw [expect, outcome, Rom.read_eq, Bus.maps, find_contents]
    cases Device.rom.cell bus.rom.words.size address <;> rfl
  | writeRom address data =>
    rw [expect, outcome, Rom.write_eq, Bus.maps, find_contents]
    cases Device.rom.cell bus.rom.words.size address <;> rfl
  | loadWord address data =>
    rw [expect, outcome, Rom.loadWord_eq, Bus.maps, find_contents, accept_word]
    obtain ⟨index, named, rfl⟩ | ⟨refused, _⟩ := Device.rom.cell_cases bus.rom.words.size address
    · rw [named]
      cases (content .word data : Except DeviceError Word) with
      | error failure => rfl
      | ok word => exact congrArg (fun rom => done ⟨_, rom⟩) (contents_set index word).symm
    · rw [refused]
      rfl
  | loadRom values =>
    rw [expect, outcome, Rom.load, wordsFrom_eq]
    by_cases long : bus.rom.size < values.length
    · rw [if_pos long]
      exact if_pos long
    · rw [if_neg long]
      refine (if_neg long).trans ?_
      cases bad : misfit? 0 values with
      | some entry => rfl
      | none =>
        have filled := contents_filled (Nat.le_of_not_lt long) (misfit?_eq_none_iff.mp bad)
        exact congrArg (fun rom => done ⟨_, rom⟩) filled.symm
  | ask request => exact congrArg Except.ok (expectAsked_maps bus request)
  | load address data => exact congrArg done (maps_load bus address data).symm

theorem exists_error_cell (device : Device) (size : Nat) (address : Int) :
    (∃ failure, device.cell size address = .error failure) ↔ ¬(0 ≤ address ∧ address < size) := by
  obtain ⟨index, named, rfl⟩ | ⟨refused, outside⟩ := device.cell_cases size address
  · simp [named]
  · simp [refused, outside]

theorem exists_error_content (width : Nat) (refusal : Int → DeviceError) (data : Int) :
    (∃ failure, (content refusal data : Except DeviceError (BitVec width)) = .error failure) ↔
      ¬(0 ≤ data ∧ data < (2 ^ width : Nat)) := by
  obtain ⟨value, stored, rfl⟩ | ⟨refused, outside⟩ := content_cases width refusal data
  · rw [stored]
    exact iff_of_false not_exists_error_ok (not_not_intro ⟨Int.natCast_nonneg _, Int.ofNat_lt.mpr value.isLt⟩)
  · rw [refused]
    exact iff_of_true ⟨_, rfl⟩ outside

theorem exists_error_byte (data : Int) :
    (∃ failure, (content .byte data : Except DeviceError Byte) = .error failure) ↔ ¬(0 ≤ data ∧ data < 256) :=
  exists_error_content 8 .byte data

theorem exists_error_word (data : Int) :
    (∃ failure, (content .word data : Except DeviceError Word) = .error failure) ↔ ¬(0 ≤ data ∧ data < 65536) :=
  exists_error_content 16 .word data

/-- An operation fails just when its address, a value or its length is out of range. -/
theorem exists_error_outcome (operation : Operation) :
    (∃ failure, operation.outcome bus = .error failure) ↔ operation.Refused bus.ram.size bus.rom.size := by
  cases operation with
  | readRam address =>
    rw [outcome, exists_error_map_iff, exists_error_mapError_iff, Ram.read_eq, exists_error_map_iff]
    exact exists_error_cell .ram ..
  | writeRam address data =>
    rw [outcome, exists_error_map_iff, exists_error_mapError_iff, Ram.write_eq, exists_error_both_iff]
    exact or_congr (exists_error_cell .ram ..) (exists_error_byte data)
  | fillRam value =>
    rw [outcome, exists_error_map_iff, exists_error_mapError_iff, Ram.fill_eq, exists_error_map_iff]
    exact exists_error_byte value
  | readRom address =>
    rw [outcome, exists_error_map_iff, exists_error_mapError_iff, Rom.read_eq, exists_error_map_iff]
    exact exists_error_cell .rom ..
  | writeRom address data =>
    rw [outcome, exists_error_map_iff, exists_error_mapError_iff, Rom.write_eq, exists_error_map_iff]
    exact exists_error_cell .rom ..
  | loadWord address data =>
    rw [outcome, exists_error_map_iff, exists_error_mapError_iff, Rom.loadWord_eq, exists_error_both_iff]
    exact or_congr (exists_error_cell .rom ..) (exists_error_word data)
  | loadRom values =>
    rw [outcome, exists_error_map_iff, exists_error_mapError_iff, Rom.load, wordsFrom_eq, Refused]
    by_cases long : bus.rom.size < values.length
    · rw [if_pos long]
      exact iff_of_true ⟨_, rfl⟩ (.inl long)
    · rw [if_neg long, or_iff_right long, exists_error_map_iff]
      have unfit : (∃ value ∈ values, ¬(0 ≤ value ∧ value < 65536)) ↔ misfit? 0 values ≠ none := by
        simp only [ne_eq, misfit?_eq_none_iff, not_forall, exists_prop]
      rw [unfit]
      cases misfit? 0 values with
      | none => exact iff_of_false not_exists_error_ok (not_not_intro rfl)
      | some entry => exact iff_of_true ⟨_, rfl⟩ (Option.some_ne_none entry)
  | ask request => exact iff_of_false not_exists_error_ok id
  | load address data => exact iff_of_false not_exists_error_ok id

theorem size_storeIfHeld (map : Contents) (address : Int) (value : Nat) :
    (map.storeIfHeld address value).size = map.size := by
  unfold Contents.storeIfHeld
  split <;> rfl

theorem sizes_of_expect {operation : Operation} {maps next : Maps} {answer : Option Nat}
    (success : operation.expect maps = .ok (answer, next)) :
    next.ram.size = maps.ram.size ∧ next.rom.size = maps.rom.size := by
  cases operation with
  | readRam _ | readRom _ | writeRom _ _ | fillRam _ =>
    obtain ⟨value, _, made⟩ := bind_eq_ok_iff.mp success
    cases made
    exact ⟨rfl, rfl⟩
  | writeRam address data | loadWord address data =>
    obtain ⟨old, _, later⟩ := bind_eq_ok_iff.mp success
    obtain ⟨value, _, made⟩ := bind_eq_ok_iff.mp later
    cases made
    exact ⟨rfl, rfl⟩
  | loadRom values =>
    unfold expect at success
    dsimp only at success
    split at success
    · cases success
    · split at success
      · cases success
      · cases success
        exact ⟨rfl, rfl⟩
  | ask request =>
    cases request <;> cases success <;> first | exact ⟨rfl, rfl⟩ | exact ⟨size_storeIfHeld .., rfl⟩
  | load address data =>
    cases success
    exact ⟨size_storeIfHeld .., rfl⟩

/-- One operation: it does on the memories what it does on their maps, or it fails as on them. -/
theorem perform_maps (operation : Operation) :
    Attempt.allOrNothing operation.expect bus.maps =
      ((operation.perform bus).1, (operation.perform bus).2.maps) := by
  rw [perform_eq]
  unfold Attempt.allOrNothing
  rw [expect_maps]
  cases operation.outcome bus <;> rfl

/-- An operation that fails has changed neither memory and has logged nothing. -/
theorem perform_of_error {operation : Operation} {failure : Refusal}
    (failed : (operation.perform bus).1 = .error failure) : (operation.perform bus).2 = bus := by
  rw [perform_eq] at failed ⊢
  exact Attempt.snd_allOrNothing_of_error failed

theorem exists_error_perform (operation : Operation) :
    (∃ failure, (operation.perform bus).1 = .error failure) ↔ operation.Refused bus.ram.size bus.rom.size := by
  rw [← exists_error_outcome, perform_eq, Attempt.fst_allOrNothing, exists_error_map_iff]

theorem sizes_perform (operation : Operation) :
    (operation.perform bus).2.ram.size = bus.ram.size ∧ (operation.perform bus).2.rom.size = bus.rom.size := by
  rw [perform_eq]
  unfold Attempt.allOrNothing
  cases success : operation.outcome bus with
  | error failure => exact ⟨rfl, rfl⟩
  | ok made =>
    have meant := expect_maps bus operation
    rw [success] at meant
    exact sizes_of_expect meant

/-! ## Any operations, one after another -/

/-- What some operations make of a bus, and what the same ones make of its maps. -/
structure Refines (operations : List Operation) (bus reached : Bus)
    (answers : List (Except Refusal (Option Nat))) : Prop where
  meant : Attempt.runEach (operations.map fun operation => .allOrNothing operation.expect) bus.maps =
    (answers, reached.maps)
  refused : List.Forall₂ (fun operation answer => (∃ failure, answer = .error failure) ↔
    operation.Refused bus.ram.size bus.rom.size) operations answers
  ramSize : reached.ram.size = bus.ram.size
  romSize : reached.rom.size = bus.rom.size

theorem refines (operations : List Operation) :
    Refines operations bus (Attempt.runEach (operations.map perform) bus).2
      (Attempt.runEach (operations.map perform) bus).1 := by
  -- No operation changes a size, so what will be refused is settled at the start.
  induction operations generalizing bus with
  | nil => exact ⟨rfl, .nil, rfl, rfl⟩
  | cons operation rest ih =>
    have later := ih (operation.perform bus).2
    obtain ⟨ramSize, romSize⟩ := sizes_perform bus operation
    refine ⟨?_, .cons (exists_error_perform bus operation) ?_, later.ramSize.trans ramSize,
      later.romSize.trans romSize⟩
    · rw [List.map_cons, Attempt.runEach, perform_maps]
      dsimp only
      rw [later.meant]
      rfl
    · have refused := later.refused
      rw [ramSize, romSize] at refused
      exact refused

/-- The procedures do what the functions of the memories and of the bus make of them. Any operations, on
memories of any size and content, answer and fail as on the maps of these memories and leave the maps that
they have there. Both keep their addresses and the bounds of their values, an operation fails just when it is
given what is out of range, and then it has changed nothing. -/
theorem memories_refine_maps :
    (∀ operation : Operation, operation.perform = .allOrNothing operation.outcome) ∧
    (∀ (operations : List Operation) (bus : Bus),
      let run := Attempt.runEach (operations.map perform) bus
      Refines operations bus run.2 run.1 ∧ run.2.maps.ram.Sized bus.ram.size 256 ∧
        run.2.maps.rom.Sized bus.rom.size 65536) ∧
    ∀ (operation : Operation) (bus : Bus) (failure : Refusal),
      (operation.perform bus).1 = .error failure → (operation.perform bus).2 = bus := by
  refine ⟨perform_eq, ?_, ?_⟩
  · intro operations bus
    have refined := refines bus operations
    exact ⟨refined, refined.ramSize ▸ sized_contents, refined.romSize ▸ sized_contents⟩
  · intro operation bus failure failed
    exact perform_of_error bus failed

theorem memories_refine_maps_of_two_cells :
    let bus : Bus := { ram := ⟨#[1, 2]⟩, rom := ⟨#[7, 8]⟩ }
    let operations : List Operation := [.writeRam 1 9, .ask (.write (-1023) 300), .readRam 1, .writeRam 2 256,
      .loadRom [5, 65536], .readRom 0, .writeRom 0 6, .loadRom [5], .readRom 1]
    let answers : List (Except Refusal (Option Nat)) := [.ok none, .ok none, .ok (some 44),
      .error (.device (.address .ram 2 2)), .error (.image (.notWord 65536 1)), .ok (some 7), .ok none, .ok none,
      .ok (some 0)]
    Refines operations bus (Attempt.runEach (operations.map perform) bus).2 answers ∧
      ((loadRom [5, 65536]).perform bus).2 = bus := by
  intro bus operations answers
  obtain ⟨_, each, atomic⟩ := memories_refine_maps
  have refined := (each operations bus).1
  have answered : (Attempt.runEach (operations.map perform) bus).1 = answers := by decide +kernel
  have refused : ((loadRom [5, 65536]).perform bus).1 = .error (.image (.notWord 65536 1)) := by decide +kernel
  rw [answered] at refined
  exact ⟨refined, atomic _ bus _ refused⟩

end Operation

end HarvardBench
