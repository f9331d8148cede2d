import HarvardBench.Proofs.Assembly.Grammar
import HarvardBench.Proofs.Text.Decimal
import HarvardBench.Text.Integer

/-! The integers that plain numerals stand for.

A plain numeral has neither blanks nor underscores in it: it is decimal, with a minus sign for a
negative number, or hexadecimal with a mark.
-/

set_option autoImplicit false

namespace HarvardBench.Text

open Grammar (Digits digits_toDigits)

inductive PlainNumeral : List Char → Int → Prop where
  | decimal {digits : List Char} {n : Nat} (written : Digits 10 digits n)
      (short : digits.length ≤ decimalLimit) : PlainNumeral digits n
  | negative {digits : List Char} {n : Nat} (written : Digits 10 digits n)
      (short : digits.length ≤ decimalLimit) : PlainNumeral ('-' :: digits) (-n)
  | hexadecimal {digits : List Char} {n : Nat} {mark : Char} (letter : mark = 'x' ∨ mark = 'X')
      (written : Digits 16 digits n) : PlainNumeral ('0' :: mark :: digits) n

def IsSolid (c : Char) : Prop := 32 < c.toNat ∧ c.toNat < 128

instance : DecidablePred IsSolid := fun _ => inferInstanceAs (Decidable (_ ∧ _))

/-! ### Characters -/

theorem plainDigit_of_solid {c : Char} (solid : IsSolid c) : plainDigit c = c := by
  have beyond : ∀ first ∈ scriptZeros, 128 ≤ first := by decide
  have none : (scriptZeros.find? fun first => first ≤ c.toNat && c.toNat < first + 10) = none := by
    rw [List.find?_eq_none]
    intro first member
    have := beyond first member
    have := solid.2
    simp only [Bool.and_eq_true, decide_eq_true_eq, not_and]
    omega
  rw [plainDigit, none]

theorem isMargin_of_solid {c : Char} (solid : IsSolid c) : isMargin c = false := by
  obtain ⟨low, high⟩ := solid
  simp only [isMargin, isBlank, Bool.and_eq_false_iff, Bool.or_eq_false_iff, decide_eq_false_iff_not,
    beq_eq_false_iff_ne]
  omega

theorem solid_of_isDigitIn {base : Nat} {c : Char} (digit : isDigitIn base c = true) : IsSolid c := by
  unfold isDigitIn digitIn? digitValue? at digit
  unfold IsSolid
  grind

/-- A numeral without blanks and digits of other scripts is read as it stands. -/
theorem trimMargin_of_solid {text : List Char} (solid : ∀ c ∈ text, IsSolid c) :
    trimMargin (text.map plainDigit) = text := by
  have plain : text.map plainDigit = text := by
    simpa using List.map_congr_left fun c member => plainDigit_of_solid (solid c member)
  have inside : ∀ c ∈ text, isMargin c = false := fun c member => isMargin_of_solid (solid c member)
  rw [plain, trimMargin, dropWhile_of_stop fun c first => inside c (List.mem_of_mem_head? first),
    dropWhile_of_stop fun c last => inside c (List.mem_of_getLast? (by simpa [List.head?_reverse] using last)),
    List.reverse_reverse]

/-! ### Digits -/

theorem ne_of_isDigitIn {base : Nat} {c mark : Char} (digit : isDigitIn base c = true)
    (other : digitValue? mark = none) : c ≠ mark := by
  rintro rfl
  simp [isDigitIn, digitIn?, other] at digit

theorem spacedDigits?_of_digits {base : Nat} {text : List Char} (filled : text ≠ [])
    (digits : ∀ c ∈ text, isDigitIn base c = true) : spacedDigits? base text = some text := by
  induction text with
  | nil => exact absurd rfl filled
  | cons c rest ih =>
    obtain ⟨here, later⟩ := List.forall_mem_cons.mp digits
    cases rest with
    | nil => rw [spacedDigits?, if_pos here]
    | cons d more =>
      have apart : d ≠ '_' := ne_of_isDigitIn (later d List.mem_cons_self) rfl
      rw [spacedDigits?, if_pos here, ih (List.cons_ne_nil _ _) later, Option.map_some]
      · nofun
      · rintro _ same
        exact apart (List.cons.inj same).1

theorem natural?_of_digits (radix : Radix) {text : List Char} {n : Nat} (written : Digits radix.base text n)
    (admitted : radix.admits text.length = true) :
    (∀ c ∈ text, isDigitIn radix.base c = true) ∧ natural? radix.base text = some n := by
  obtain ⟨filled, inside, value⟩ := Grammar.digits_iff.mp written
  refine ⟨inside, ?_⟩
  rw [natural?, spacedDigits?_of_digits filled inside, Option.bind_some]
  exact (if_pos admitted).trans (congrArg some value)

/-! ### Numerals -/

theorem unmarked?_of_digits {text : List Char} (digits : ∀ c ∈ text, isDigitIn 10 c = true) :
    unmarked? 'x' text = none := by
  unfold unmarked?
  split
  · next mark _ =>
    have digit : isDigitIn 10 mark = true := digits mark (by simp)
    rw [if_neg]
    rw [Grammar.toLower_eq_iff (by decide)]
    rintro (rfl | rfl) <;> cases digit
  · rfl

theorem integer?_of_unmarked {text : List Char} (unmarked : unmarked? 'x' text = none) :
    integer? text = integerIn? 10 none text := by
  rw [integer?, unmarked]
  rfl

theorem integer?_of_decimal {digits : List Char} {n : Nat} (written : Digits 10 digits n)
    (short : digits.length ≤ decimalLimit) : integer? digits = some (n : Int) := by
  obtain ⟨inside, magnitude⟩ := natural?_of_digits .decimal written (decide_eq_true short)
  rw [integer?_of_unmarked (unmarked?_of_digits inside), integerIn?,
    trimMargin_of_solid fun c member => solid_of_isDigitIn (inside c member)]
  dsimp only
  split
  · cases inside '-' List.mem_cons_self
  · cases inside '+' List.mem_cons_self
  · exact congrArg (Option.map Int.ofNat) magnitude

theorem integer?_of_negative {digits : List Char} {n : Nat} (written : Digits 10 digits n)
    (short : digits.length ≤ decimalLimit) : integer? ('-' :: digits) = some (-n : Int) := by
  obtain ⟨inside, magnitude⟩ := natural?_of_digits .decimal written (decide_eq_true short)
  have solid : ∀ c ∈ '-' :: digits, IsSolid c :=
    List.forall_mem_cons.mpr ⟨by decide, fun c member => solid_of_isDigitIn (inside c member)⟩
  rw [integer?_of_unmarked rfl, integerIn?, trimMargin_of_solid solid]
  exact congrArg (Option.map fun n => -n) (congrArg (Option.map Int.ofNat) magnitude)

theorem unmarked?_of_mark {digits : List Char} {mark : Char} (letter : mark = 'x' ∨ mark = 'X')
    (inside : ∀ c ∈ digits, isDigitIn 16 c = true) : unmarked? 'x' ('0' :: mark :: digits) = some digits := by
  rw [unmarked?, if_pos ((Grammar.toLower_eq_iff (by decide)).mpr letter)]
  -- An underscore behind the mark would be dropped.
  rintro more rfl
  cases inside '_' List.mem_cons_self

theorem integer?_of_hexadecimal {digits : List Char} {n : Nat} {mark : Char} (letter : mark = 'x' ∨ mark = 'X')
    (written : Digits 16 digits n) : integer? ('0' :: mark :: digits) = some (n : Int) := by
  obtain ⟨inside, magnitude⟩ := natural?_of_digits .hexadecimal written rfl
  have solid : ∀ c ∈ '0' :: mark :: digits, IsSolid c := by
    refine List.forall_mem_cons.mpr ⟨by decide, List.forall_mem_cons.mpr ⟨?_, ?_⟩⟩
    · rcases letter with rfl | rfl <;> decide
    · exact fun c member => solid_of_isDigitIn (inside c member)
  have behind := unmarked?_of_mark letter inside
  rw [integer?, behind, Option.isSome_some, if_pos rfl, integerIn?, trimMargin_of_solid solid]
  change (natural? 16 (unmarked (some 'x') ('0' :: mark :: digits))).map Int.ofNat = some (n : Int)
  rw [unmarked, Option.bind_some, behind]
  exact congrArg (Option.map Int.ofNat) magnitude

theorem integer?_of_plainNumeral {text : List Char} {value : Int} (written : PlainNumeral text value) :
    integer? text = some value := by
  cases written with
  | decimal digits short => exact integer?_of_decimal digits short
  | negative digits short => exact integer?_of_negative digits short
  | hexadecimal letter digits => exact integer?_of_hexadecimal letter digits

end HarvardBench.Text
