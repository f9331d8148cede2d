import Mathlib.Tactic.LinearCombination
import HarvardBench.Proofs.Assembly.Language
import HarvardBench.Proofs.Machine.LongSubtraction
import HarvardBench.Proofs.Machine.Processor

/-! Addition of numbers of several bytes in the data memory.

A round loads a byte of each number, adds them and stores the byte of the sum. The carry that an
addition leaves survives the store and the loads behind it, so the next round takes it in. After
each round, the bytes stored so far and the carry together make the sum of the bytes loaded so far.
-/

set_option autoImplicit false

namespace HarvardBench

open Round (number)

def Instruction.executeAll : List Instruction → State → Bus → Except State.Fault (State × Bus)
  | [], state, bus => .ok (state, bus)
  | instruction :: rest, state, bus => do
    let (next, after) ← instruction.execute state bus
    executeAll rest next after

theorem Instruction.executeAll_append {front back : List Instruction} {state middle last : State}
    {bus between after : Bus} (first : executeAll front state bus = .ok (middle, between))
    (second : executeAll back middle between = .ok (last, after)) :
    executeAll (front ++ back) state bus = .ok (last, after) := by
  induction front generalizing state bus with
  | nil =>
    obtain ⟨rfl, rfl⟩ := Prod.mk.inj (Except.ok.inj first)
    exact second
  | cons instruction front ih =>
    obtain ⟨⟨next, reached⟩, executed, later⟩ := bind_eq_ok_iff.mp first
    exact bind_eq_ok_iff.mpr ⟨(next, reached), executed, ih later⟩

def Ram.field (ram : Ram) (start count : Nat) : List Int :=
  (List.range' start count).map fun index => ((ram.byteAt index).toNat : Int)

namespace Ram

variable {ram other : Ram} {start count : Nat}

theorem length_field : (ram.field start count).length = count := by
  rw [field, List.length_map, List.length_range']

theorem field_succ :
    ram.field start (count + 1) = ram.field start count ++ [((ram.byteAt (start + count)).toNat : Int)] := by
  rw [field, List.range'_1_concat, List.map_append]
  rfl

theorem field_congr (same : ∀ index < count, ram.byteAt (start + index) = other.byteAt (start + index)) :
    ram.field start count = other.field start count := by
  refine List.map_congr_left fun position member => ?_
  obtain ⟨index, inside, rfl⟩ := List.mem_range'.mp member
  rw [Nat.one_mul, same index inside]

theorem bytes_field : ∀ digit ∈ ram.field start count, 0 ≤ digit ∧ digit < 256 := by
  intro digit member
  obtain ⟨position, _, rfl⟩ := List.mem_map.mp member
  have bound := (ram.byteAt position).isLt
  omega

end Ram

theorem Round.number_concat (digits : List Int) (last : Int) :
    number (digits ++ [last]) = number digits + 256 ^ digits.length * last := by
  induction digits with
  | nil => simp [number]
  | cons low higher ih =>
    rw [List.cons_append, number, ih, number, List.length_cons, pow_succ]
    ring

/-- Where two numbers and their sum lie in the data memory, and how many bytes each of them has. -/
structure Addition where
  left : Nat
  right : Nat
  sum : Nat
  count : Nat

namespace Addition

def round (addition : Addition) (index : Nat) : List String :=
  ["lod x,$" ++ toString (addition.left + index), "lod y,$" ++ toString (addition.right + index),
    if 0 < index then "add x, y, carry" else "add x, y", "str x,$" ++ toString (addition.sum + index)]

def statements (addition : Addition) : List String := (List.range addition.count).flatMap addition.round

/-- The memory has a place for each byte, and the sum takes the place of no byte that is added. The
numbers that are added may lie in one another. -/
structure Fits (addition : Addition) (ram : Ram) : Prop where
  positive : 0 < addition.count
  mapped : ∀ start ∈ [addition.left, addition.right, addition.sum],
    start + addition.count ≤ ram.size ∧ start + addition.count ≤ dataSpan
  apart : ∀ start ∈ [addition.left, addition.right],
    start + addition.count ≤ addition.sum ∨ addition.sum + addition.count ≤ start

/-- The state is as it was, but for two registers and the flags. -/
def Frames (before after : State) : Prop :=
  after = { before with registers := { before.registers with x := after.registers.x, y := after.registers.y }
                        flags := after.flags }

/-- What the rounds up to an index leave. -/
structure Added (addition : Addition) (index : Nat) (before after : State) (bus reached : Bus) : Prop where
  balance : number (reached.ram.field addition.sum index) +
      256 ^ index * (decide (0 < index) && after.flags.carry).toNat =
    number (bus.ram.field addition.left index) + number (bus.ram.field addition.right index)
  others : ∀ position, position < addition.sum ∨ addition.sum + index ≤ position →
    reached.ram.byteAt position = bus.ram.byteAt position
  size : reached.ram.size = bus.ram.size
  rom : reached.rom = bus.rom
  frames : Frames before after

/-! ## One round -/

def instructions (addition : Addition) (index : Nat) : List Instruction :=
  [.lod .x (BitVec.ofNat 10 (addition.left + index)), .lod .y (BitVec.ofNat 10 (addition.right + index)),
    .add .x .y (decide (0 < index)), .str .x (BitVec.ofNat 10 (addition.sum + index))]

section Words

open Assembly Grammar Text

theorem statementWord_transfer {instruction : Instruction} {name : String} {target : Register} {address : Nat}
    (transfers : instruction.opcode.format = .registerDataAddress)
    (fields : instruction.payload = target.code * 1024 + address % 1024)
    (named : upper name.toList = instruction.opcode.name.toList) (unblank : name.toList.all (!isBlank ·) = true)
    (inside : address < dataSpan) :
    statementWord (name ++ " " ++ target.name ++ ",$" ++ toString address).toList = .ok instruction.word := by
  have short : (Nat.toDigits 10 address).length ≤ decimalLimit :=
    admits_iff.mp (admits_toDigits_iff.mpr (lt_limit_of_short (Nat.lt_trans inside (by decide)))) rfl
  have digits : Digits Radix.decimal.base (Nat.toDigits 10 address) address :=
    digits_toDigits .decimal address
  have spelled : Spells target.name.toList target.name.toList :=
    (isKeyword_register target).spells_iff.mpr (by cases target <;> rfl)
  have written := Operands.dataAddress spelled (.comma gap_nil gap_nil) (.digits .none digits fun _ => short)
  rw [← transfers, ← fields] at written
  have solid : ∀ c ∈ name.toList, isBlank c = false := by simpa using unblank
  have statement := Statement.operation (List.forall_mem_nil _) solid named
    (List.forall_mem_singleton.mpr (show isBlank ' ' = true by decide)) nofun written (List.forall_mem_nil _)
  obtain ⟨word, success, value⟩ := statement_complete statement
  have text : (name ++ " " ++ target.name ++ ",$" ++ toString address).toList =
      [] ++ (name.toList ++ ([' '] ++
        (target.name.toList ++ ([] ++ ',' :: [] ++ '$' :: ([] ++ Nat.toDigits 10 address)) ++ []))) := by
    simp
  rw [text, success, Except.ok.injEq]
  apply BitVec.eq_of_toNat_eq
  rw [value, Instruction.toNat_word]

variable {addition : Addition} {index : Nat}

theorem words_round (inside : ∀ start ∈ [addition.left, addition.right, addition.sum], start + index < dataSpan) :
    List.Forall₂ (fun text word => statementWord text.toList = .ok word) (addition.round index)
      ((addition.instructions index).map Instruction.word) := by
  simp only [List.forall_mem_cons, List.not_mem_nil, false_implies, implies_true, and_true] at inside
  obtain ⟨left, right, sum⟩ := inside
  have load : upper "lod".toList = Opcode.lod.name.toList := by decide
  have store : upper "str".toList = Opcode.str.name.toList := by decide
  have fields (target : Register) (address : Nat) : target.code * 1024 + (BitVec.ofNat 10 address).toNat =
      target.code * 1024 + address % 1024 := by rw [BitVec.toNat_ofNat]
  have add : statementWord (if 0 < index then "add x, y, carry" else "add x, y").toList =
      .ok (Instruction.add .x .y (decide (0 < index))).word := by
    by_cases later : 0 < index
    · rw [if_pos later, decide_eq_true later]
      decide +kernel
    · rw [if_neg later, decide_eq_false later]
      decide +kernel
  refine .cons ?_ (.cons ?_ (.cons add (.cons ?_ .nil)))
  · exact @statementWord_transfer (.lod .x _) "lod" .x _ rfl (fields .x _) load (by decide) left
  · exact @statementWord_transfer (.lod .y _) "lod" .y _ rfl (fields .y _) load (by decide) right
  · exact @statementWord_transfer (.str .x _) "str" .x _ rfl (fields .x _) store (by decide) sum

end Words

theorem add_bytes (left right : Byte) (carry : Bool) :
    (Arithmetic.add left.toNat right.toNat carry).result +
        256 * (Arithmetic.add left.toNat right.toNat carry).carry.toNat =
      left.toNat + right.toNat + carry.toNat := by
  have leftBound := left.isLt
  have rightBound := right.isLt
  rw [Arithmetic.add, Arithmetic.Outcome.ofSum]
  dsimp only
  by_cases large : 255 < (left.toNat : Int) + right.toNat + if carry then 1 else 0
  all_goals
    simp only [large, decide_true, decide_false]
    -- The sum is at most 511, so a carry means that it exceeds a byte by 256.
    cases carry <;> simp at large ⊢ <;> omega

section Rounds

variable {addition : Addition} {index : Nat}

theorem dataAddress_ofNat {address : Nat} (inside : address < dataSpan) :
    dataAddress (BitVec.ofNat 10 address).toNat = address := by
  rw [BitVec.toNat_ofNat, Nat.mod_eq_of_lt (show address < 2 ^ 10 from inside), dataAddress_of_lt inside]

theorem get_set_byte {state : State} {register : Register} (byte : Byte) (named : register ≠ .null) :
    (state.set register byte.toNat).get register = byte.toNat := by
  have bound := byte.isLt
  rw [State.get, State.set, Registers.get_set_self _ _ named]
  omega

theorem execute_add {state : State} {left right : Byte} (bus : Bus) (chained : Bool)
    (holdsLeft : state.get .x = left.toNat) (holdsRight : state.get .y = right.toNat) :
    ∃ (after : State) (byte : Byte), (Instruction.add .x .y chained).execute state bus = .ok (after, bus) ∧
      BitVec.ofInt 8 (after.get .x) = byte ∧
      (byte.toNat : Int) + 256 * after.flags.carry.toNat =
        left.toNat + right.toNat + (chained && state.flags.carry).toNat ∧
      Frames state after := by
  let outcome := Arithmetic.add left.toNat right.toNat (chained && state.flags.carry)
  have sum : Instruction.sumOf state .x .y chained = outcome :=
    congrArg₂ (Arithmetic.add · · _) holdsLeft holdsRight
  have small : outcome.result % 256 = outcome.result := Int.emod_emod_of_dvd _ (dvd_refl _)
  let settled := Instruction.settle state outcome
  have held : (settled.set .x outcome.result).get .x = outcome.result :=
    (Registers.get_set_self settled.registers _ (show Register.x ≠ .null by decide)).trans small
  refine ⟨settled.set .x outcome.result, BitVec.ofInt 8 outcome.result, ?_, by rw [held], ?_, rfl⟩
  · rw [show settled = Instruction.settle _ outcome from rfl, ← sum]
    rfl
  · rw [Processor.toNat_ofInt_byte, small]
    exact add_bytes left right (chained && state.flags.carry)

/-- A round stores the byte of the sum of its bytes and the carry, and leaves the new carry. -/
theorem executeAll_instructions (state : State) (bus : Bus)
    (inside : ∀ start ∈ [addition.left, addition.right, addition.sum], start + index < dataSpan) :
    ∃ after reached byte, Instruction.executeAll (addition.instructions index) state bus = .ok (after, reached) ∧
      (byte.toNat : Int) + 256 * after.flags.carry.toNat =
        (bus.ram.byteAt (addition.left + index)).toNat + (bus.ram.byteAt (addition.right + index)).toNat +
          (decide (0 < index) && state.flags.carry).toNat ∧
      reached.ram = bus.ram.put (addition.sum + index) byte ∧ reached.rom = bus.rom ∧ Frames state after := by
  simp only [List.forall_mem_cons, List.not_mem_nil, false_implies, implies_true, and_true] at inside
  obtain ⟨left, right, sum⟩ := inside
  let first := bus.peek (BitVec.ofNat 10 (addition.left + index)).toNat
  let second := bus.peek (BitVec.ofNat 10 (addition.right + index)).toNat
  let loaded := (state.set .x first.toNat).set .y second.toNat
  let logged := ((bus.read (BitVec.ofNat 10 (addition.left + index)).toNat).2.read
    (BitVec.ofNat 10 (addition.right + index)).toNat).2
  have holdsLeft : loaded.get .x = first.toNat := @get_set_byte state .x first (by decide)
  have holdsRight : loaded.get .y = second.toNat := @get_set_byte (state.set .x first.toNat) .y second (by decide)
  obtain ⟨after, byte, added, stored, balance, frames⟩ :=
    execute_add logged (decide (0 < index)) holdsLeft holdsRight
  -- Two loads, the addition and the store, one after another.
  have executed : Instruction.executeAll (addition.instructions index) state bus =
      (Instruction.add .x .y (decide (0 < index))).execute loaded logged >>= fun (next, reached) =>
        .ok (next, reached.write (BitVec.ofNat 10 (addition.sum + index)).toNat (next.get .x)) := rfl
  rw [added] at executed
  refine ⟨after, _, byte, executed, ?_, ?_, rfl, frames⟩
  · rw [← dataAddress_ofNat left, ← dataAddress_ofNat right]
    exact balance
  · change logged.ram.put _ (BitVec.ofInt 8 (after.get .x)) = _
    rw [stored, dataAddress_ofNat sum]
    rfl

end Rounds

/-! ## All rounds -/

section Chain

variable {addition : Addition} {index : Nat} {before state : State} {bus between : Bus}

theorem added_zero : addition.Added 0 state state bus bus where
  balance := rfl
  others := fun _ _ => rfl
  size := rfl
  rom := rfl
  frames := rfl

/-- One more round keeps the balance: it loads bytes that no round before it has stored to. -/
theorem Added.succ (added : addition.Added index before state bus between) (fits : addition.Fits bus.ram)
    (inside : index < addition.count) :
    ∃ after reached, Instruction.executeAll (addition.instructions index) state between = .ok (after, reached) ∧
      addition.Added (index + 1) before after bus reached := by
  have addressed : ∀ start ∈ [addition.left, addition.right, addition.sum], start + index < dataSpan :=
    fun start own => Nat.lt_of_lt_of_le (Nat.add_lt_add_left inside start) (fits.mapped start own).2
  obtain ⟨after, reached, byte, executed, round, stored, rom, frames⟩ :=
    executeAll_instructions state between addressed
  -- The sum lies apart from both operands, so the bytes to be added are still those of the start.
  have loaded : ∀ start ∈ [addition.left, addition.right],
      between.ram.byteAt (start + index) = bus.ram.byteAt (start + index) := by
    intro start own
    have apart := fits.apart start own
    exact added.others _ (by omega)
  have room := (fits.mapped addition.sum (by simp)).1
  have own : reached.ram.byteAt (addition.sum + index) = byte := by
    rw [stored, Ram.byteAt_put, if_pos ⟨rfl, by rw [added.size]; omega⟩]
  have kept : ∀ position ≠ addition.sum + index, reached.ram.byteAt position = between.ram.byteAt position := by
    intro position different
    rw [stored, Ram.byteAt_put, if_neg fun same => different same.1.symm]
  refine ⟨after, reached, executed, ?_, ?_, ?_, rom.trans added.rom, ?_⟩
  · -- The new byte is the highest digit of the sum so far, and its carry goes to the next round.
    have lower : reached.ram.field addition.sum index = between.ram.field addition.sum index :=
      Ram.field_congr fun position earlier => kept _ (by omega)
    rw [loaded addition.left (by simp), loaded addition.right (by simp)] at round
    simp only [Ram.field_succ, Round.number_concat, Ram.length_field, lower, own, Nat.succ_pos, decide_true,
      Bool.true_and]
    linear_combination added.balance + 256 ^ index * round
  · intro position outside
    exact (kept position (by omega)).trans (added.others position (by omega))
  · rw [stored, Ram.size_put, added.size]
  · have first := added.frames
    unfold Frames at first frames ⊢
    rw [frames, first]

theorem executeAll_rounds (state : State) (fits : addition.Fits bus.ram) (inside : index ≤ addition.count) :
    ∃ after reached, Instruction.executeAll ((List.range index).flatMap addition.instructions) state bus =
        .ok (after, reached) ∧ addition.Added index state after bus reached := by
  induction index with
  | zero => exact ⟨state, bus, rfl, added_zero⟩
  | succ index ih =>
    obtain ⟨middle, between, earlier, added⟩ := ih (Nat.le_of_succ_le inside)
    obtain ⟨after, reached, last, complete⟩ := added.succ fits inside
    refine ⟨after, reached, ?_, complete⟩
    rw [List.range_succ, List.flatMap_append, List.flatMap_singleton]
    exact Instruction.executeAll_append earlier last

theorem words_rounds {ram : Ram} (fits : addition.Fits ram) (inside : index ≤ addition.count) :
    List.Forall₂ (fun text word => Assembly.statementWord text.toList = .ok word)
      ((List.range index).flatMap addition.round)
      (((List.range index).flatMap addition.instructions).map Instruction.word) := by
  induction index with
  | zero => exact .nil
  | succ index ih =>
    rw [List.range_succ, List.flatMap_append, List.flatMap_append, List.map_append, List.flatMap_singleton,
      List.flatMap_singleton]
    refine List.rel_append (ih (Nat.le_of_succ_le inside)) (words_round fun start own => ?_)
    exact Nat.lt_of_lt_of_le (Nat.add_lt_add_left inside start) (fits.mapped start own).2

end Chain

structure Summed (addition : Addition) (before after : State) (bus reached : Bus) : Prop where
  total : number (reached.ram.field addition.sum addition.count) =
    (number (bus.ram.field addition.left addition.count) + number (bus.ram.field addition.right addition.count)) %
      256 ^ addition.count
  carry : after.flags.carry = decide (256 ^ addition.count ≤
    number (bus.ram.field addition.left addition.count) + number (bus.ram.field addition.right addition.count))
  others : ∀ position, position < addition.sum ∨ addition.sum + addition.count ≤ position →
    reached.ram.byteAt position = bus.ram.byteAt position
  size : reached.ram.size = bus.ram.size
  rom : reached.rom = bus.rom
  frames : Frames before after

theorem Added.summed {addition : Addition} {before after : State} {bus reached : Bus}
    (added : addition.Added addition.count before after bus reached) (positive : 0 < addition.count) :
    addition.Summed before after bus reached := by
  have bounds := Round.number_bounds (@Ram.bytes_field reached.ram addition.sum addition.count)
  rw [Ram.length_field] at bounds
  have balance := added.balance
  rw [decide_eq_true positive, Bool.true_and] at balance
  refine ⟨?_, ?_, added.others, added.size, added.rom, added.frames⟩
  · rw [← balance, Int.add_mul_emod_self_left, Int.emod_eq_of_lt bounds.1 bounds.2]
  · rw [← balance]
    cases after.flags.carry with
    | false => simpa using bounds.2
    | true => simpa using bounds.1

/-- The statements of an addition have words, and executing these leaves the sum, modulo a power of 256
that the carry tells apart. -/
theorem statements_add (addition : Addition) (state : State) (bus : Bus) (fits : addition.Fits bus.ram) :
    ∃ words after reached, addition.statements.mapM (fun text => Assembly.statementWord text.toList) = .ok words ∧
      Instruction.executeAll (words.map Word.instruction) state bus = .ok (after, reached) ∧
      addition.Summed state after bus reached := by
  have words := words_rounds fits (Nat.le_refl addition.count)
  obtain ⟨after, reached, executed, added⟩ := executeAll_rounds state fits (Nat.le_refl addition.count)
  refine ⟨_, after, reached, mapM_eq_ok_iff.mpr words, ?_, added.summed fits.positive⟩
  rw [List.map_map, List.map_congr_left (g := id) fun instruction _ => instruction.instruction_word, List.map_id]
  exact executed

theorem statements_add_two_bytes :
    let addition : Addition := ⟨0, 2, 4, 2⟩
    let bus : Bus := { ram := ⟨#[0xFF, 0x01, 0x01, 0xFF, 0, 0]⟩, rom := ⟨#[]⟩ }
    addition.Fits bus.ram ∧
      ∃ words after reached, addition.statements.mapM (fun text => Assembly.statementWord text.toList) = .ok words ∧
        Instruction.executeAll (words.map Word.instruction) (.initial 4) bus = .ok (after, reached) ∧
        addition.Summed (.initial 4) after bus reached ∧ number (reached.ram.field 4 2) = 0x0100 ∧
        after.flags.carry = true := by
  intro addition bus
  have fits : addition.Fits bus.ram := ⟨by decide, by decide, by decide⟩
  obtain ⟨words, after, reached, read, executed, summed⟩ := statements_add addition (.initial 4) bus fits
  exact ⟨fits, words, after, reached, read, executed, summed, summed.total.trans (by decide),
    summed.carry.trans (by decide)⟩

end Addition

end HarvardBench
