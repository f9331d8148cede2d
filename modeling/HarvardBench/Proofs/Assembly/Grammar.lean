import HarvardBench.Assembly.Statement
import HarvardBench.Proofs.Text.Trimming
import Mathlib.Data.List.Forall2
import Mathlib.Data.List.Induction
import Mathlib.Tactic.IntervalCases

/-! The grammar of statements.

The grammar says which texts are statements and which numbers they stand for, without a cursor
and without an order of reading. A name may be written in any letter case, a numeral may
begin with a letter for its radix, and only spaces and tabs may stand around a comma.
-/

set_option autoImplicit false

namespace HarvardBench.Grammar

def Gap (text : List Char) : Prop := ∀ c ∈ text, c = ' ' ∨ c = '\t'

inductive Separator : List Char → Prop where
  | comma {before after : List Char} (front : Gap before) (back : Gap after) :
      Separator (before ++ ',' :: after)

/-- A text spells a lower-case name, each letter of it in either case. -/
def Spells (name text : List Char) : Prop :=
  List.Forall₂ (fun letter c => c = letter ∨ c = letter.toUpper) name text

def IsDigit (base : Nat) (c : Char) (value : Nat) : Prop :=
  value < base ∧ (c = value.digitChar ∨ c = value.digitChar.toUpper)

/-- One digit or more, and the number that they make. -/
inductive Digits (base : Nat) : List Char → Nat → Prop where
  | single {c : Char} {value : Nat} (digit : IsDigit base c value) : Digits base [c] value
  | append {text : List Char} {c : Char} {total value : Nat} (front : Digits base text total)
      (digit : IsDigit base c value) : Digits base (text ++ [c]) (total * base + value)

inductive Marker : List Char → Text.Radix → Prop where
  | none : Marker [] .decimal
  | decimal {c : Char} (letter : c = 'd' ∨ c = 'D') : Marker [c] .decimal
  | binary {c : Char} (letter : c = 'b' ∨ c = 'B') : Marker [c] .binary
  | hexadecimal {c : Char} (letter : c = 'x' ∨ c = 'X') : Marker [c] .hexadecimal

inductive Numeral : List Char → Nat → Prop where
  | digits {marker numeral : List Char} {radix : Text.Radix} {value : Nat} (marked : Marker marker radix)
      (digits : Digits radix.base numeral value)
      (short : radix = .decimal → numeral.length ≤ Text.decimalLimit) : Numeral (marker ++ numeral) value

inductive FlagList : List Char → List Flag → Prop where
  | single {text : List Char} {flag : Flag} (named : Spells flag.name.toList text) : FlagList text [flag]
  | cons {text separator rest : List Char} {flag : Flag} {others : List Flag}
      (named : Spells flag.name.toList text) (separated : Separator separator) (more : FlagList rest others) :
      FlagList (text ++ (separator ++ rest)) (flag :: others)

/-- The operands of a format, and the number that their fields make at their places in a word. -/
inductive Operands : Format → List Char → Nat → Prop where
  | none : Operands .none [] 0
  | registerPair {first second : Register} {left separator right : List Char}
      (target : Spells first.name.toList left) (separated : Separator separator)
      (source : Spells second.name.toList right) :
      Operands .registerPair (left ++ (separator ++ right)) (first.code * 1024 + second.code * 256)
  | unchained {first second : Register} {left separator right : List Char}
      (target : Spells first.name.toList left) (separated : Separator separator)
      (source : Spells second.name.toList right) :
      Operands .registerPairCarry (left ++ (separator ++ right)) (first.code * 1024 + second.code * 256)
  | chained {first second : Register} {left separator right before clause : List Char}
      (target : Spells first.name.toList left) (separated : Separator separator)
      (source : Spells second.name.toList right) (apart : Separator before)
      (named : Spells Flag.carry.name.toList clause) :
      Operands .registerPairCarry (left ++ (separator ++ (right ++ (before ++ clause))))
        (first.code * 1024 + second.code * 256 + 128)
  | programAddress {numeral : List Char} {value : Nat} (number : Numeral numeral value) :
      Operands .programAddress ('$' :: '$' :: numeral) (value % 4096)
  | dataAddress {target : Register} {left separator numeral : List Char} {value : Nat}
      (named : Spells target.name.toList left) (separated : Separator separator)
      (number : Numeral numeral value) :
      Operands .registerDataAddress (left ++ (separator ++ '$' :: numeral))
        (target.code * 1024 + value % 1024)
  | flags {text : List Char} {named : List Flag} (list : FlagList text named) (once : named.Nodup) :
      Operands .flags text
        ((if .carry ∈ named then 2048 else 0) + if .zero ∈ named then 1024 else 0)
  | register {target : Register} {text : List Char} (named : Spells target.name.toList text) :
      Operands .register text (target.code * 1024)
  | immediate {target : Register} {left separator numeral : List Char} {value : Nat}
      (named : Spells target.name.toList left) (separated : Separator separator)
      (number : Numeral numeral value) (byte : value ≤ 255) :
      Operands .registerImmediate (left ++ (separator ++ '#' :: numeral)) (target.code * 1024 + value)

def Blanks (text : List Char) : Prop := ∀ c ∈ text, Text.isBlank c = true

/-- A statement: the name of an operation and its operands, blanks between them and around them,
and the number of the word that it stands for. -/
inductive Statement : List Char → Nat → Prop where
  | operation {front name gap operands back : List Char} {opcode : Opcode} {fields : Nat}
      (before : Blanks front) (solid : ∀ c ∈ name, Text.isBlank c = false)
      (named : Text.upper name = opcode.name.toList) (between : Blanks gap)
      (apart : gap = [] → operands = []) (written : Operands opcode.format operands fields)
      (after : Blanks back) :
      Statement (front ++ (name ++ (gap ++ (operands ++ back)))) (opcode.code * 4096 + fields)

/-! ## Letters and digits -/

theorem isSpace_iff {c : Char} : Assembly.isSpace c = true ↔ c = ' ' ∨ c = '\t' := by
  rw [Assembly.isSpace, Bool.or_eq_true, beq_iff_eq, beq_iff_eq]

theorem toNat_toLower (c : Char) :
    c.toLower.toNat = if 65 ≤ c.toNat ∧ c.toNat ≤ 90 then c.toNat + 32 else c.toNat := by
  unfold Char.toLower
  split
  · next upper =>
    have high : c.val.toNat ≤ 90 := upper.2
    rw [if_pos (show 65 ≤ c.toNat ∧ c.toNat ≤ 90 from upper)]
    change (c.val + 32).toNat = c.val.toNat + 32
    rw [UInt32.toNat_add, show (32 : UInt32).toNat = 32 from rfl]
    omega
  · next other => exact (if_neg other).symm

theorem toNat_toUpper (c : Char) :
    c.toUpper.toNat = if 97 ≤ c.toNat ∧ c.toNat ≤ 122 then c.toNat - 32 else c.toNat := by
  unfold Char.toUpper
  split
  · next lower =>
    have range : 97 ≤ c.val.toNat ∧ c.val.toNat ≤ 122 := lower
    rw [if_pos (show 97 ≤ c.toNat ∧ c.toNat ≤ 122 from lower)]
    -- The offset is negative, so it is its complement that is added.
    change (c.val + 4294967264).toNat = c.val.toNat - 32
    rw [UInt32.toNat_add, show (4294967264 : UInt32).toNat = 4294967264 from rfl]
    omega
  · next other => exact (if_neg other).symm

theorem toNat_of_isLower {letter : Char} (small : letter.isLower = true) :
    97 ≤ letter.toNat ∧ letter.toNat ≤ 122 := by
  delta Char.isLower at small
  rw [Bool.and_eq_true, decide_eq_true_eq, decide_eq_true_eq] at small
  exact small

theorem toLower_eq_iff {c letter : Char} (small : letter.isLower = true) :
    c.toLower = letter ↔ c = letter ∨ c = letter.toUpper := by
  have range := toNat_of_isLower small
  rw [← Char.toNat_inj, ← Char.toNat_inj, ← Char.toNat_inj, toNat_toLower, toNat_toUpper,
    if_pos range]
  split <;> omega

theorem spells_iff {name text : List Char} (small : ∀ letter ∈ name, letter.isLower = true) :
    Spells name text ↔ text.map Char.toLower = name := by
  rw [Spells]
  induction name generalizing text with
  | nil => rw [List.forall₂_nil_left_iff, List.map_eq_nil_iff]
  | cons letter name ih =>
    obtain ⟨here, later⟩ := List.forall_mem_cons.mp small
    cases text with
    | nil => exact iff_of_false nofun nofun
    | cons c text =>
      rw [List.forall₂_cons, List.map_cons, List.cons.injEq, toLower_eq_iff here,
        ih later]

theorem digitValue?_iff {c : Char} {value : Nat} :
    Text.digitValue? c = some value ↔ IsDigit 16 c value := by
  constructor
  · intro known
    rw [IsDigit, ← Char.toNat_inj, ← Char.toNat_inj]
    unfold Text.digitValue? at known
    dsimp only at known
    -- The three ranges are the decimal digits, and the letters in the one case and in the other.
    generalize c.toNat = code at known ⊢
    split at known
    · next range =>
      obtain rfl := Option.some.inj known
      obtain ⟨low, high⟩ := range
      interval_cases code <;> decide
    · split at known
      · next range =>
        obtain rfl := Option.some.inj known
        obtain ⟨low, high⟩ := range
        interval_cases code <;> decide
      · split at known
        · next range =>
          obtain rfl := Option.some.inj known
          obtain ⟨low, high⟩ := range
          interval_cases code <;> decide
        · cases known
  · rintro ⟨small, rfl | rfl⟩
    · interval_cases value <;> rfl
    · interval_cases value <;> rfl

theorem digitIn?_iff {base : Nat} (small : base ≤ 16) {c : Char} {value : Nat} :
    Text.digitIn? base c = some value ↔ IsDigit base c value := by
  rw [Text.digitIn?, Option.filter_eq_some_iff, digitValue?_iff, IsDigit, IsDigit, decide_eq_true_eq]
  constructor
  · rintro ⟨⟨_, written⟩, below⟩
    exact ⟨below, written⟩
  · rintro ⟨below, written⟩
    exact ⟨⟨Nat.lt_of_lt_of_le below small, written⟩, below⟩

theorem base_le (radix : Text.Radix) : radix.base ≤ 16 := by
  cases radix <;> decide

theorem isDigit_iff {radix : Text.Radix} {c : Char} :
    radix.isDigit c = true ↔ ∃ value, IsDigit radix.base c value := by
  rw [Text.Radix.isDigit, Text.isDigitIn, Option.isSome_iff_exists]
  exact exists_congr fun _ => digitIn?_iff (base_le radix)

theorem value_append {radix : Text.Radix} {c : Char} {value : Nat} (text : List Char)
    (digit : IsDigit radix.base c value) :
    radix.value (text ++ [c]) = radix.value text * radix.base + value := by
  unfold Text.Radix.value Text.valueIn
  rw [List.foldl_append, List.foldl_cons, List.foldl_nil, (digitIn?_iff (base_le radix)).mpr digit]
  rfl

/-- The digits of a numeral are those that a reader takes, with the value that it gives them. -/
theorem digits_iff {radix : Text.Radix} {text : List Char} {value : Nat} :
    Digits radix.base text value ↔
      text ≠ [] ∧ (∀ c ∈ text, radix.isDigit c = true) ∧ radix.value text = value := by
  constructor
  · intro digits
    induction digits with
    | single digit =>
      refine ⟨List.cons_ne_nil _ _, List.forall_mem_singleton.mpr (isDigit_iff.mpr ⟨_, digit⟩), ?_⟩
      exact (value_append [] digit).trans (by rw [show radix.value [] = 0 from rfl, Nat.zero_mul, Nat.zero_add])
    | append _ digit ih =>
      obtain ⟨_, inside, total⟩ := ih
      refine ⟨List.append_ne_nil_of_right_ne_nil _ (List.cons_ne_nil _ _), ?_, ?_⟩
      · exact List.forall_mem_append.mpr
          ⟨inside, List.forall_mem_singleton.mpr (isDigit_iff.mpr ⟨_, digit⟩)⟩
      · rw [value_append _ digit, total]
  · rintro ⟨filled, inside, rfl⟩
    -- The last digit counts one, so the digits are taken off at the end.
    induction text using List.reverseRecOn with
    | nil => exact absurd rfl filled
    | append_singleton front c ih =>
      obtain ⟨others, last⟩ := List.forall_mem_append.mp inside
      obtain ⟨value, digit⟩ := isDigit_iff.mp (last c (List.mem_singleton_self c))
      rw [value_append front digit]
      by_cases more : front = []
      · subst more
        rw [show radix.value [] = 0 from rfl, Nat.zero_mul, Nat.zero_add]
        exact .single digit
      · exact .append (ih more others) digit

theorem digits_toDigits (radix : Text.Radix) (n : Nat) : Digits radix.base (Nat.toDigits radix.base n) n := by
  have several : 1 < radix.base := by cases radix <;> decide
  induction n using Nat.strong_induction_on with
  | h n ih =>
    rcases Nat.lt_or_ge n radix.base with small | large
    · rw [Nat.toDigits_of_lt_base small]
      exact .single ⟨small, .inl rfl⟩
    · have front := ih (n / radix.base) (Nat.div_lt_self (by omega) several)
      have last : IsDigit radix.base (n % radix.base).digitChar (n % radix.base) :=
        ⟨Nat.mod_lt _ (by omega), .inl rfl⟩
      have whole := Digits.append front last
      rwa [Nat.div_add_mod', ← Nat.toDigits_of_base_le several large] at whole

theorem ofMarker?_iff {c : Char} {radix : Text.Radix} :
    Text.Radix.ofMarker? c = some radix ↔ Marker [c] radix := by
  constructor
  · intro known
    unfold Text.Radix.ofMarker? at known
    split at known
    · next same =>
      obtain rfl := Option.some.inj known
      exact .decimal ((toLower_eq_iff (by decide)).mp same)
    · next same =>
      obtain rfl := Option.some.inj known
      exact .binary ((toLower_eq_iff (by decide)).mp same)
    · next same =>
      obtain rfl := Option.some.inj known
      exact .hexadecimal ((toLower_eq_iff (by decide)).mp same)
    · cases known
  · intro marker
    cases marker with
    | decimal letter => rcases letter with rfl | rfl <;> rfl
    | binary letter => rcases letter with rfl | rfl <;> rfl
    | hexadecimal letter => rcases letter with rfl | rfl <;> rfl

end HarvardBench.Grammar
