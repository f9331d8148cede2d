import HarvardBench.Proofs.Assembly.Reading
import Mathlib.Data.List.Basic

/-! Readers on operands that are written out.

Each lemma runs one reader over the text of one operand, with any text behind it that
does not go on with the same operand. Together they read back all operands of an
instruction as it is printed.
-/

set_option autoImplicit false

namespace HarvardBench.Assembly

open Text Reader

section Items

variable {rest : Cursor}

theorem skipSpaces_of_stop (stop : ∀ c ∈ rest.head?, isSpace c = false) : skipSpaces rest = rest :=
  dropWhile_of_stop stop

theorem isSpace_of_isWordChar {c : Char} (member : isWordChar c = true) : isSpace c = false := by
  have space : isWordChar ' ' = false := by decide
  have tab : isWordChar '\t' = false := by decide
  simp only [isSpace, Bool.or_eq_false_iff, beq_eq_false_iff_ne]
  constructor
  · rintro rfl
    simp [space] at member
  · rintro rfl
    simp [tab] at member

theorem skipSpaces_word {name : List Char} (solid : ∀ c ∈ name, isWordChar c = true) (filled : name ≠ []) :
    skipSpaces (name ++ rest) = name ++ rest := by
  apply skipSpaces_of_stop
  intro c first
  rw [List.head?_append_of_ne_nil name filled] at first
  exact isSpace_of_isWordChar (solid c (List.mem_of_mem_head? first))

theorem run_comma (stop : ∀ c ∈ rest.head?, isSpace c = false) :
    comma.run (',' :: ' ' :: rest) = (.ok (), rest) := by
  have skipped : skipSpaces (',' :: ' ' :: rest) = ',' :: ' ' :: rest := by simp [skipSpaces, isSpace]
  have more : skipSpaces (' ' :: rest) = rest := skipSpaces_of_stop stop
  simp [run, comma, skipped, more]

theorem run_register {name : List Char} {found : Register}
    (named : name.map Char.toLower = found.name.toList) (solid : ∀ c ∈ name, isWordChar c = true)
    (stop : ∀ c ∈ rest.head?, isWordChar c = false) :
    register.run (name ++ rest) = (.ok found, rest) := by
  -- No register has an empty name.
  have filled : name ≠ [] := by
    rintro rfl
    cases found <;> simp [Register.name] at named
  have known : Register.ofName? found.name.toList = some found := by cases found <;> rfl
  simp [run, register, skipSpaces_word solid filled, takeWhile_append_of_stop solid stop,
    dropWhile_append_of_stop solid stop, filled, named, known]

theorem run_sigil (sign : List Char) : (sigil sign).run (sign ++ rest) = (.ok (), rest) := by
  induction sign with
  | nil => rfl
  | cons c sign ih => simpa [run, sigil] using ih

theorem run_digits {base : Radix} {numeral : List Char} (inside : ∀ c ∈ numeral, base.isDigit c = true)
    (filled : numeral ≠ []) (stop : ∀ c ∈ rest.head?, base.isDigit c = false) :
    (digits base).run (numeral ++ rest) =
      (if base.admits numeral.length then .ok (base.value numeral) else .error .numeralTooLong, rest) := by
  simp only [run, digits, takeWhile_append_of_stop inside stop, dropWhile_append_of_stop inside stop]
  rw [if_neg (by simpa using filled)]
  split <;> rfl

theorem run_number {base : Radix} {sign marker numeral : List Char} (signed : sign ≠ [])
    (solid : ∀ c ∈ sign, isSpace c = false)
    (marked : radix.run (marker ++ (numeral ++ rest)) = (.ok base, numeral ++ rest))
    (inside : ∀ c ∈ numeral, base.isDigit c = true) (filled : numeral ≠ [])
    (stop : ∀ c ∈ rest.head?, base.isDigit c = false) :
    (number sign).run (sign ++ (marker ++ (numeral ++ rest))) =
      (if base.admits numeral.length then .ok (base.value numeral) else .error .numeralTooLong, rest) := by
  have start : spaces.run (sign ++ (marker ++ (numeral ++ rest))) =
      (.ok (), sign ++ (marker ++ (numeral ++ rest))) := by
    have skipped : skipSpaces (sign ++ (marker ++ (numeral ++ rest))) =
        sign ++ (marker ++ (numeral ++ rest)) := by
      apply skipSpaces_of_stop
      intro c first
      rw [List.head?_append_of_ne_nil sign signed] at first
      exact solid c (List.mem_of_mem_head? first)
    simp [run, spaces, skipped]
  unfold number
  rw [run_bind_of_ok start, run_bind_of_ok (run_sigil sign), run_bind_of_ok marked,
    run_digits inside filled stop]

theorem ofMarker?_of_isDigit {c : Char} (digit : c.isDigit = true) : Radix.ofMarker? c = none := by
  have high := (toNat_of_isDigit digit).2
  -- Only letters change with the case, and all markers are letters.
  have lower : c.toLower = c := by
    unfold Char.toLower
    split
    · next upper =>
      have : 65 ≤ c.toNat := upper.1
      omega
    · rfl
  unfold Radix.ofMarker?
  rw [lower]
  split
  · exact absurd digit (by decide)
  · exact absurd digit (by decide)
  · exact absurd digit (by decide)
  · rfl

/-- A printed number is read back, with the letter of its radix or without it, unless it has
too many digits. -/
theorem run_number_decimal {sign marker : List Char} (n : Nat) (signed : sign ≠ [])
    (solid : ∀ c ∈ sign, isSpace c = false) (marked : marker = [] ∨ marker = ['d'])
    (stop : ∀ c ∈ rest.head?, Radix.decimal.isDigit c = false) :
    (number sign).run (sign ++ (marker ++ (Nat.toDigits 10 n ++ rest))) =
      (if n < decimalSpan then .ok n else .error .numeralTooLong, rest) := by
  -- A first digit marks no radix, so decimal is taken and the digit is left to be read.
  have decimal : radix.run (marker ++ (Nat.toDigits 10 n ++ rest)) =
      (.ok .decimal, Nat.toDigits 10 n ++ rest) := by
    rcases marked with rfl | rfl
    · obtain ⟨c, more, same⟩ := List.exists_cons_of_ne_nil (Nat.toDigits_ne_nil (n := n) (b := 10))
      have digit : c.isDigit = true := isDigit_of_mem_toDigits (n := n) (same ▸ List.mem_cons_self)
      simp [run, radix, same, ofMarker?_of_isDigit digit]
    · simp [run, radix, show Radix.ofMarker? 'd' = some .decimal from rfl]
  have read := run_number signed solid decimal
    (fun c member => isDigit_decimal (isDigit_of_mem_toDigits member)) Nat.toDigits_ne_nil stop
  rw [read, value_toDigits]
  simp only [admits_toDigits_iff]

theorem run_number_short {sign : List Char} {n : Nat} (signed : sign ≠ [])
    (solid : ∀ c ∈ sign, isSpace c = false) (short : n < 10000) :
    (number sign).run (sign ++ Nat.toDigits 10 n) = (.ok n, []) := by
  have stop : ∀ c ∈ ([] : Cursor).head?, Radix.decimal.isDigit c = false := by simp
  have read := run_number_decimal n signed solid (.inl rfl) stop
  rwa [if_pos (lt_limit_of_short short), List.nil_append, List.append_nil] at read

theorem run_registerName (found : Register) (stop : ∀ c ∈ rest.head?, isWordChar c = false) :
    register.run (found.name.toList ++ rest) = (.ok found, rest) := by
  refine run_register ?_ ?_ stop
  · cases found <;> rfl
  · cases found <;> simp [Register.name, isWordChar]

theorem run_registerComma (found : Register) (rest : Cursor)
    (stop : ∀ c ∈ rest.head?, isSpace c = false) :
    ∃ between, register.run (found.name.toList ++ ',' :: ' ' :: rest) = (.ok found, between) ∧
      comma.run between = (.ok (), rest) :=
  ⟨',' :: ' ' :: rest, run_registerName found (by simpa using (by decide : isWordChar ',' = false)),
    run_comma stop⟩

end Items

/-! ## The operands of an instruction -/

/-- The flags of an operation on flags are named, one of them at least. -/
def NamesFlags : Instruction → Prop
  | .stb flags | .clb flags => flags ≠ {}
  | _ => True

theorem isSpace_head_registerName (found : Register) (rest : Cursor) :
    ∀ c ∈ (found.name.toList ++ rest).head?, isSpace c = false := by
  cases found <;> simp [Register.name, isSpace]

theorem run_registerPair (first second : Register) {rest : Cursor}
    (stop : ∀ c ∈ rest.head?, isWordChar c = false) :
    registerPair.run (first.name.toList ++ ',' :: ' ' :: (second.name.toList ++ rest)) =
      (.ok (first, second), rest) := by
  obtain ⟨between, firstRead, commaRead⟩ :=
    run_registerComma first _ (isSpace_head_registerName second rest)
  unfold registerPair
  rw [run_bind_of_ok firstRead, run_bind_of_ok commaRead, run_bind_of_ok (run_registerName second stop)]
  rfl

theorem run_carryClause_none : carryClause.run [] = (.ok false, []) := rfl

theorem run_carryClause_some : carryClause.run (", carry".toList) = (.ok true, []) := by
  decide

theorem run_flags {flags : Flags} (named : flags ≠ {}) :
    Assembly.flags.run (", ".intercalate (Instruction.flagOperands flags)).toList = (.ok flags, []) := by
  obtain ⟨carry, zero⟩ := flags
  cases carry <;> cases zero
  · exact absurd rfl named
  · decide +kernel
  · decide +kernel
  · decide +kernel

section Families

variable (first second : Register)

theorem run_chainedPair (build : Register → Register → Bool → Instruction) (chained : Bool) :
    (chainedPair build).run (", ".intercalate (Instruction.pairOperands first second chained)).toList =
      (.ok (build first second chained), []) := by
  unfold chainedPair
  cases chained with
  | false =>
    have written : (", ".intercalate (Instruction.pairOperands first second false)).toList =
        first.name.toList ++ ',' :: ' ' :: (second.name.toList ++ []) := by
      simp [Instruction.pairOperands]
    rw [written, run_bind_of_ok (run_registerPair first second (by simp))]
    dsimp only
    rw [run_bind_of_ok run_carryClause_none]
    rfl
  | true =>
    have written : (", ".intercalate (Instruction.pairOperands first second true)).toList =
        first.name.toList ++ ',' :: ' ' :: (second.name.toList ++ ", carry".toList) := by
      simp [Instruction.pairOperands]
    rw [written, run_bind_of_ok (run_registerPair first second (by simp [isWordChar]))]
    dsimp only
    rw [run_bind_of_ok run_carryClause_some]
    rfl

theorem run_transfer (build : Register → BitVec 10 → Instruction) (address : BitVec 10) :
    (transfer build).run (", ".intercalate [first.name, Instruction.dataOperand address]).toList =
      (.ok (build first address), []) := by
  have written : (", ".intercalate [first.name, Instruction.dataOperand address]).toList =
      first.name.toList ++ ',' :: ' ' :: (['$'] ++ Nat.toDigits 10 address.toNat) := by
    simp [Instruction.dataOperand]
  obtain ⟨between, read, separated⟩ := run_registerComma first
    (['$'] ++ Nat.toDigits 10 address.toNat) (by simp [isSpace])
  have numbered : dataNumber.run (['$'] ++ Nat.toDigits 10 address.toNat) =
      (.ok address.toNat, []) :=
    run_number_short (by decide) (by simp [isSpace]) (Nat.lt_trans address.isLt (by decide))
  unfold transfer
  rw [written, run_bind_of_ok read, run_bind_of_ok separated, run_bind_of_ok numbered, run_pure,
    BitVec.ofNat_toNat, BitVec.setWidth_eq]

theorem run_maskedPair :
    (operands .nand).run (", ".intercalate (Instruction.pairOperands first second false)).toList =
      (.ok (.nand first second), []) := by
  have written : (", ".intercalate (Instruction.pairOperands first second false)).toList =
      first.name.toList ++ ',' :: ' ' :: (second.name.toList ++ []) := by
    simp [Instruction.pairOperands]
  unfold operands
  rw [written, run_bind_of_ok (run_registerPair first second (by simp))]
  rfl

theorem run_shift : (operands .shr).run (", ".intercalate [first.name]).toList = (.ok (.shr first), []) := by
  have written : (", ".intercalate [first.name]).toList = first.name.toList ++ [] := by simp
  unfold operands
  rw [written, run_bind_of_ok (run_registerName first (by simp))]
  rfl

theorem run_immediateLoad (value : BitVec 8) :
    (operands .ldi).run (", ".intercalate [first.name, "#" ++ toString value.toNat]).toList =
      (.ok (.ldi first value), []) := by
  have written : (", ".intercalate [first.name, "#" ++ toString value.toNat]).toList =
      first.name.toList ++ ',' :: ' ' :: (['#'] ++ Nat.toDigits 10 value.toNat) := by
    simp
  obtain ⟨between, read, separated⟩ := run_registerComma first
    (['#'] ++ Nat.toDigits 10 value.toNat) (by simp [isSpace])
  have numbered : (number ['#']).run (['#'] ++ Nat.toDigits 10 value.toNat) =
      (.ok value.toNat, []) :=
    run_number_short (by decide) (by simp [isSpace]) (Nat.lt_trans value.isLt (by decide))
  have byte : immediate.run (['#'] ++ Nat.toDigits 10 value.toNat) =
      (.ok value.toNat, []) := by
    unfold immediate
    rw [run_bind_of_ok numbered, if_pos (by have := value.isLt; omega), run_pure]
  unfold operands
  rw [written, run_bind_of_ok read, run_bind_of_ok separated, run_bind_of_ok byte, run_pure,
    BitVec.ofNat_toNat, BitVec.setWidth_eq]

theorem run_branch (build : BitVec 12 → Instruction) {marker rest : List Char} (address : Nat)
    (marked : marker = [] ∨ marker = ['d'])
    (stop : ∀ c ∈ rest.head?, Radix.decimal.isDigit c = false) :
    (branch build).run (['$', '$'] ++ (marker ++ (Nat.toDigits 10 address ++ rest))) =
      (if address < decimalSpan then .ok (build (BitVec.ofNat 12 address))
        else .error .numeralTooLong, rest) := by
  have read : programNumber.run (['$', '$'] ++ (marker ++ (Nat.toDigits 10 address ++ rest))) = _ :=
    run_number_decimal address (by decide) (by simp [isSpace]) marked stop
  unfold branch
  rw [run_bind, read]
  by_cases short : address < decimalSpan
  · simp only [if_pos short, run_pure]
  · simp only [if_neg short]

end Families

/-- The operands of an instruction are read back as they are printed. -/
theorem run_operands {instruction : Instruction} (named : NamesFlags instruction) :
    (operands instruction.opcode).run (", ".intercalate instruction.operands).toList =
      (.ok instruction, []) := by
  have branched (build : BitVec 12 → Instruction) (target : BitVec 12) :
      (branch build).run (", ".intercalate [Instruction.programOperand target]).toList =
        (.ok (build target), []) := by
    have written : (", ".intercalate [Instruction.programOperand target]).toList =
        ['$', '$'] ++ ([] ++ (Nat.toDigits 10 target.toNat ++ [])) := by
      simp [Instruction.programOperand]
    have short : target.toNat < 10000 := Nat.lt_trans target.isLt (by decide)
    rw [written, run_branch build target.toNat (.inl rfl) (by simp), if_pos (lt_limit_of_short short),
      BitVec.ofNat_toNat, BitVec.setWidth_eq]
  cases instruction with
  | hlt => rfl
  | ret => rfl
  | add target source chained => exact run_chainedPair target source .add chained
  | sub target source chained => exact run_chainedPair target source .sub chained
  | cmp left right chained => exact run_chainedPair left right .cmp chained
  | nand target source => exact run_maskedPair target source
  | shr target => exact run_shift target
  | stb flags => exact run_bind_of_ok (run_flags named) fun found => pure (Instruction.stb found)
  | clb flags => exact run_bind_of_ok (run_flags named) fun found => pure (Instruction.clb found)
  | ldi target value => exact run_immediateLoad target value
  | lod target address => exact run_transfer target .lod address
  | str source address => exact run_transfer source .str address
  | jmp target => exact branched .jmp target
  | jc target => exact branched .jc target
  | jz target => exact branched .jz target
  | call target => exact branched .call target

end HarvardBench.Assembly
