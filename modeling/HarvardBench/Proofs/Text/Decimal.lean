import HarvardBench.Text.Blank
import HarvardBench.Text.Numeral
import HarvardBench.Text.WordChar

/-! Decimal numerals as they are printed. Reading the digits of a number gives the number. -/

set_option autoImplicit false

namespace HarvardBench.Text

theorem digitIn?_ten {c : Char} (digit : c.isDigit = true) :
    digitIn? 10 c = some (c.toNat - '0'.toNat) := by
  obtain ⟨low, high⟩ := toNat_of_isDigit digit
  unfold digitIn? digitValue?
  rw [if_pos ⟨low, high⟩]
  simp only [Option.filter_some]
  rw [if_pos (by simpa using by omega)]
  rfl

theorem isDigit_decimal {c : Char} (digit : c.isDigit = true) : Radix.decimal.isDigit c = true := by
  simp [Radix.isDigit, isDigitIn, Radix.base, digitIn?_ten digit]

theorem isDigit_of_decimal {c : Char} (digit : Radix.decimal.isDigit c = true) : c.isDigit = true := by
  unfold Radix.isDigit isDigitIn Radix.base digitIn? digitValue? at digit
  rw [Char.isDigit_iff_toNat]
  change 48 ≤ c.toNat ∧ c.toNat ≤ 57
  dsimp only at digit
  -- A hexadecimal letter stands for ten at least, so only the first range is left.
  split at digit
  · next decimal => exact decimal
  · split at digit
    · simp only [Option.isSome_filter, Option.any_some, decide_eq_true_eq] at digit
      omega
    · split at digit
      · simp only [Option.isSome_filter, Option.any_some, decide_eq_true_eq] at digit
        omega
      · simp at digit

theorem valueIn_ten {digits : List Char} (decimal : ∀ c ∈ digits, c.isDigit = true) :
    valueIn 10 digits = Nat.ofDigitChars 10 digits 0 := by
  have same (start : Nat) :
      digits.foldl (fun total c => total * 10 + (digitIn? 10 c).getD 0) start =
        Nat.ofDigitChars 10 digits start := by
    induction digits generalizing start with
    | nil => simp
    | cons c digits ih =>
      rw [List.foldl_cons, Nat.ofDigitChars_cons, digitIn?_ten (decimal c (by simp)),
        Nat.mul_comm 10 start]
      exact ih (fun other member => decimal other (List.mem_cons_of_mem c member)) _
  exact same 0

theorem isDigit_of_mem_toDigits {n : Nat} {c : Char} (member : c ∈ Nat.toDigits 10 n) :
    c.isDigit = true :=
  Nat.isDigit_of_mem_toDigits (by decide) (by decide) member

@[simp] theorem value_toDigits (n : Nat) : Radix.decimal.value (Nat.toDigits 10 n) = n := by
  unfold Radix.value Radix.base
  rw [valueIn_ten fun _ => isDigit_of_mem_toDigits, Nat.ofDigitChars_ten_toDigits]

theorem admits_toDigits_iff {n : Nat} :
    Radix.decimal.admits (Nat.toDigits 10 n).length = true ↔ n < decimalSpan := by
  have some : 0 < decimalLimit := by decide
  unfold Radix.admits admitsIn Radix.base decimalSpan
  -- With a variable for the limit nothing tries to compute the power.
  generalize decimalLimit = limit at some ⊢
  have short : (Nat.toDigits 10 n).length ≤ limit ↔ n < Nat.pow 10 limit :=
    Nat.length_toDigits_le_iff (by decide) some
  simpa using short

theorem lt_limit_of_short {n : Nat} (short : n < 10000) : n < decimalSpan := by
  have few : 4 ≤ decimalLimit := by decide
  unfold decimalSpan
  generalize decimalLimit = limit at few ⊢
  have wide : Nat.pow 10 4 ≤ Nat.pow 10 limit := Nat.pow_le_pow_right (by decide) few
  exact Nat.lt_of_lt_of_le short wide

theorem isBlank_of_isDigit {c : Char} (digit : c.isDigit = true) : isBlank c = false := by
  have range := toNat_of_isDigit digit
  simp only [isBlank, Bool.or_eq_false_iff, Bool.and_eq_false_iff, decide_eq_false_iff_not,
    beq_eq_false_iff_ne]
  omega

end HarvardBench.Text
