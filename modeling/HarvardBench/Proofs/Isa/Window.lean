import HarvardBench.Isa.Disassembly
import HarvardBench.Proofs.Memory.Procedures
import HarvardBench.Text.Numeral

/-! Windows of the program memory, as they are shown.

A window is some consecutive addresses, and what is shown of it are the words at those addresses that
the memory has. A window may go beyond the end of the memory or lie behind it. One that begins below
zero is refused, whether it reaches the memory or not.
-/

set_option autoImplicit false

namespace HarvardBench

/-- Four digits to the base sixteen, with capital letters, that make a number. -/
structure FourDigits (text : String) (value : Nat) : Prop where
  length : text.toList.length = 4
  capital : ∀ c ∈ text.toList, c ∈ "0123456789ABCDEF".toList
  value : Text.valueIn 16 text.toList = value

theorem hexDigit_mem {digit : Nat} (small : digit < 16) : hexDigit digit ∈ "0123456789ABCDEF".toList := by
  have all : ∀ digit < 16, hexDigit digit ∈ "0123456789ABCDEF".toList := by decide
  exact all digit small

theorem digitIn?_hexDigit {digit : Nat} (small : digit < 16) : Text.digitIn? 16 (hexDigit digit) = some digit := by
  have all : ∀ digit < 16, Text.digitIn? 16 (hexDigit digit) = some digit := by decide
  exact all digit small

theorem Word.fourDigits_hex (word : Word) : FourDigits word.hex word.toNat := by
  have small := word.isLt
  have digit (value : Nat) : value % 16 < 16 := Nat.mod_lt value (by decide)
  refine ⟨by simp [Word.hex], ?_, ?_⟩
  · intro c member
    simp only [Word.hex, String.toList_ofList, List.mem_cons, List.not_mem_nil, or_false] at member
    rcases member with rfl | rfl | rfl | rfl <;> exact hexDigit_mem (digit _)
  · simp only [Word.hex, String.toList_ofList, Text.valueIn, List.foldl_cons, List.foldl_nil,
      digitIn?_hexDigit (digit _), Option.getD_some]
    omega

structure Row.Shows (row : Row) (rom : Rom) (symbols : Symbols) : Prop where
  stored : rom.read row.address = .ok row.word
  hex : FourDigits row.word.hex row.word.toNat
  text : row.text = row.word.text symbols

namespace Rom

/-- Rows that show a window of a memory, as far as the memory goes: one for each address, in order. -/
structure Window (rom : Rom) (symbols : Symbols) (start length : Int) (rows : List Row) : Prop where
  ascending : rows.Pairwise fun upper lower => upper.address < lower.address
  covers : ∀ address, address ∈ rows.map Row.address ↔
    (start ≤ address ∧ address < start + length) ∧ 0 ≤ address ∧ address < rom.size
  shows : ∀ row ∈ rows, row.Shows rom symbols

/-- A window is shown as far as it lies inside a memory. -/
def Clips (rom : Rom) (symbols : Symbols) (start length : Int) : Prop :=
  ∃ rows, rom.disassemble symbols start length = .ok rows ∧ rom.Window symbols start length rows

variable {rom : Rom} {symbols : Symbols} {start length : Int}

theorem read_of_lt {address : Nat} (inside : address < rom.size) :
    rom.read address = .ok (rom.wordAt address) := by
  have held : address < rom.words.size := inside
  rw [read_eq, Device.cell, cellIndex?_natCast held]
  rfl

theorem read_of_neg {address : Int} (negative : address < 0) :
    rom.read address = .error (.address .rom address rom.size) := by
  rw [read, cellIndex?_eq_none_iff.mpr (.inl negative)]

theorem rows_beyond (count : Nat) (beyond : (rom.size : Int) ≤ start) : rom.rows symbols start count = .ok [] := by
  cases count with
  | zero => rfl
  | succ count => rw [rows, if_pos beyond]

theorem rows_inside (count : Nat) (inside : start < rom.size) :
    rom.rows symbols start (count + 1) = do
      let word ← rom.read start
      let rest ← rom.rows symbols (start + 1) count
      return ⟨start, word, word.text symbols⟩ :: rest := by
  rw [rows, if_neg (Int.not_le.mpr inside)]

theorem rows_add (first second : Nat) :
    rom.rows symbols start (first + second) = do
      let front ← rom.rows symbols start first
      let back ← rom.rows symbols (start + first) second
      return front ++ back := by
  -- The rows are read from the front, and beyond the end both parts are empty.
  induction first generalizing start with
  | zero =>
    rw [Nat.zero_add, Int.natCast_zero, Int.add_zero]
    change _ = (rom.rows symbols start second).bind fun back => .ok ([] ++ back)
    cases rom.rows symbols start second <;> rfl
  | succ first ih =>
    rcases Int.lt_or_le start rom.size with inside | beyond
    · have next : start + 1 + (first : Int) = start + ((first + 1 : Nat) : Int) := by omega
      rw [Nat.add_right_comm, rows_inside _ inside, rows_inside _ inside, ih, next]
      cases rom.read start with
      | error failure => rfl
      | ok word =>
        cases rom.rows symbols (start + 1) first with
        | error failure => rfl
        | ok front => cases rom.rows symbols (start + ((first + 1 : Nat) : Int)) second <;> rfl
    · rw [rows_beyond _ beyond, rows_beyond _ beyond, rows_beyond second (by omega)]
      rfl

theorem window_nil (outside : length ≤ 0 ∨ (rom.size : Int) ≤ start) : rom.Window symbols start length [] := by
  refine ⟨.nil, fun address => ?_, List.forall_mem_nil _⟩
  rw [List.map_nil]
  exact iff_of_false List.not_mem_nil (by omega)

theorem Window.cons {address : Nat} {rows : List Row} (inside : address < rom.size) (natural : 0 ≤ length)
    (window : rom.Window symbols (address + 1) length rows) :
    rom.Window symbols address (length + 1)
      (⟨address, rom.wordAt address, (rom.wordAt address).text symbols⟩ :: rows) := by
  refine ⟨List.pairwise_cons.mpr ⟨fun row member => ?_, window.ascending⟩, fun other => ?_, ?_⟩
  · have later := (window.covers row.address).mp (List.mem_map_of_mem member)
    exact Int.lt_of_add_one_le later.1.1
  · rw [List.map_cons, List.mem_cons, window.covers]
    dsimp only
    omega
  · exact List.forall_mem_cons.mpr ⟨⟨read_of_lt inside, Word.fourDigits_hex _, rfl⟩, window.shows⟩

theorem exists_window (rom : Rom) (symbols : Symbols) (address count : Nat) :
    ∃ rows, rom.rows symbols address count = .ok rows ∧ rom.Window symbols address count rows := by
  induction count generalizing address with
  | zero => exact ⟨[], rfl, window_nil (.inl (Int.le_refl 0))⟩
  | succ count ih =>
    rcases Nat.lt_or_ge address rom.size with inside | beyond
    · obtain ⟨rows, success, window⟩ := ih (address + 1)
      refine ⟨_, ?_, window.cons inside (Int.natCast_nonneg count)⟩
      have later : rom.rows symbols (address + 1) count = .ok rows := success
      rw [rows_inside _ (Int.ofNat_lt.mpr inside), read_of_lt inside, later]
      rfl
    · exact ⟨[], rows_beyond _ (Int.ofNat_le.mpr beyond), window_nil (.inr (Int.ofNat_le.mpr beyond))⟩

theorem disassemble_of_neg (negative : start < 0) (some : 0 < length) :
    rom.disassemble symbols start length = .error (.address .rom start rom.size) := by
  have count : length.toNat = length.toNat - 1 + 1 := by omega
  rw [disassemble, count, rows_inside _ (by omega), read_of_neg negative]
  rfl

theorem clips_of_natural (natural : 0 ≤ start) : rom.Clips symbols start length := by
  obtain ⟨address, rfl⟩ := Int.eq_ofNat_of_zero_le natural
  obtain ⟨rows, success, window⟩ := exists_window rom symbols address length.toNat
  refine ⟨rows, success, window.ascending, fun other => ?_, window.shows⟩
  rw [window.covers]
  omega

theorem clips_of_empty (empty : length ≤ 0) : rom.Clips symbols start length := by
  refine ⟨[], ?_, window_nil (.inl empty)⟩
  rw [disassemble, Int.toNat_of_nonpos empty, rows]

/-- A window is shown as far as it lies inside the memory, unless it begins below zero and is not
empty; then its first address is refused. Two windows, the one right behind the other, are shown as
one. -/
theorem disassemble_windows (rom : Rom) (symbols : Symbols) :
    (∀ start length, rom.Clips symbols start length ↔ ¬(start < 0 ∧ 0 < length)) ∧
    (∀ start length failure, rom.disassemble symbols start length = .error failure ↔
      (start < 0 ∧ 0 < length) ∧ failure = .address .rom start rom.size) ∧
    ∀ (start : Int) (first second : Nat), rom.disassemble symbols start (first + second) = do
      let front ← rom.disassemble symbols start first
      let back ← rom.disassemble symbols (start + first) second
      return front ++ back := by
  -- A start below zero is harmless only where nothing is asked for.
  have shown {start length : Int} (reached : ¬(start < 0 ∧ 0 < length)) : rom.Clips symbols start length := by
    rcases Int.lt_or_le start 0 with negative | natural
    · exact clips_of_empty (by omega)
    · exact clips_of_natural natural
  refine ⟨fun start length => ⟨?_, shown⟩, fun start length failure => ⟨?_, ?_⟩, fun start first second => ?_⟩
  · rintro ⟨rows, success, _⟩ ⟨negative, some⟩
    rw [disassemble_of_neg negative some] at success
    cases success
  · intro failed
    by_cases below : start < 0 ∧ 0 < length
    · rw [disassemble_of_neg below.1 below.2] at failed
      exact ⟨below, (Except.error.inj failed).symm⟩
    · obtain ⟨rows, success, _⟩ := shown below
      rw [success] at failed
      cases failed
  · rintro ⟨⟨negative, some⟩, rfl⟩
    exact disassemble_of_neg negative some
  · have total : ((first : Int) + second).toNat = first + second := by omega
    rw [disassemble, total, rows_add]
    rfl

/-- One address below zero, which no memory has, is not shown as no rows. -/
theorem not_clips_below_zero : ¬ ∀ rom symbols start length, Rom.Clips rom symbols start length := by
  intro all
  obtain ⟨rows, success, _⟩ := all (zeroed 4) [] (-1) 1
  rw [disassemble_of_neg (by decide) (by decide)] at success
  cases success

end Rom

end HarvardBench
