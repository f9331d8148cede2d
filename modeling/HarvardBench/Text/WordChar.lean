import HarvardBench.Text.Runs
import HarvardBench.Text.WordTable

/-! The characters that words consist of: letters, digits, other numeric characters
and the underscore. -/

set_option autoImplicit false

namespace HarvardBench.Text

def isWordChar (c : Char) : Bool :=
  if c.toNat < 128 then c.isAlphanum || c == '_' else inRuns wordBoundaries c.toNat

def isNameStart (c : Char) : Bool := c.isAlpha || c == '_'

def isNameChar (c : Char) : Bool := c.isAlphanum || c == '_'

def isName : List Char → Bool
  | [] => false
  | c :: rest => isNameStart c && rest.all isNameChar

theorem isNameChar_of_isNameStart {c : Char} (start : isNameStart c = true) :
    isNameChar c = true := by
  unfold isNameStart at start
  unfold isNameChar Char.isAlphanum
  simp only [Bool.or_eq_true] at start ⊢
  exact start.elim (fun letter => .inl (.inl letter)) .inr

theorem toNat_of_isNameStart {c : Char} (start : isNameStart c = true) :
    65 ≤ c.toNat ∧ c.toNat ≤ 122 := by
  unfold isNameStart at start
  delta Char.isAlpha Char.isUpper Char.isLower at start
  simp only [Bool.or_eq_true, Bool.and_eq_true, decide_eq_true_eq, beq_iff_eq,
    UInt32.le_iff_toNat_le] at start
  rcases start with (⟨low, high⟩ | ⟨low, high⟩) | rfl
  · have : 65 ≤ c.toNat := low
    have : c.toNat ≤ 90 := high
    omega
  · have : 97 ≤ c.toNat := low
    have : c.toNat ≤ 122 := high
    omega
  · decide

theorem toNat_of_isDigit {c : Char} (digit : c.isDigit = true) : 48 ≤ c.toNat ∧ c.toNat ≤ 57 :=
  Char.isDigit_iff_toNat.mp digit

theorem isNameChar_eq (c : Char) : isNameChar c = (isNameStart c || c.isDigit) := by
  unfold isNameChar isNameStart Char.isAlphanum
  rw [Bool.or_assoc, Bool.or_assoc, Bool.or_comm c.isDigit]

theorem toNat_of_isNameChar {c : Char} (named : isNameChar c = true) :
    (48 ≤ c.toNat ∧ c.toNat ≤ 57) ∨ (65 ≤ c.toNat ∧ c.toNat ≤ 122) := by
  rw [isNameChar_eq, Bool.or_eq_true] at named
  exact named.elim (fun start => .inr (toNat_of_isNameStart start)) fun digit => .inl (toNat_of_isDigit digit)

theorem isWordChar_of_isNameChar {c : Char} (member : isNameChar c = true) :
    isWordChar c = true := by
  have ascii : c.toNat < 128 := by
    have := toNat_of_isNameChar member
    omega
  simp only [isWordChar, if_pos ascii]
  exact member

end HarvardBench.Text
