import HarvardBench.Text.Blank
import HarvardBench.Text.Numeral

/-! Integers written as text.

A text that begins with a zero and an x, in either letter case, is hexadecimal, and an
underscore may follow that mark. Any other text is decimal and may have a sign. Blanks
may stand around it and single underscores between digits, and the digits may be those of
any script.
-/

set_option autoImplicit false

namespace HarvardBench.Text

/-- The zeros of the scripts beyond ASCII that have decimal digits. -/
def scriptZeros : List Nat :=
  [0x660, 0x6f0, 0x7c0, 0x966, 0x9e6, 0xa66, 0xae6, 0xb66, 0xbe6, 0xc66, 0xce6, 0xd66, 0xde6,
    0xe50, 0xed0, 0xf20, 0x1040, 0x1090, 0x17e0, 0x1810, 0x1946, 0x19d0, 0x1a80, 0x1a90, 0x1b50,
    0x1bb0, 0x1c40, 0x1c50, 0xa620, 0xa8d0, 0xa900, 0xa9d0, 0xa9f0, 0xaa50, 0xabf0, 0xff10,
    0x104a0, 0x10d30, 0x11066, 0x110f0, 0x11136, 0x111d0, 0x112f0, 0x11450, 0x114d0, 0x11650,
    0x116c0, 0x11730, 0x118e0, 0x11950, 0x11c50, 0x11d50, 0x11da0, 0x16a60, 0x16ac0, 0x16b50,
    0x1d7ce, 0x1d7d8, 0x1d7e2, 0x1d7ec, 0x1d7f6, 0x1e140, 0x1e2f0, 0x1e950, 0x1fbf0]

def plainDigit (c : Char) : Char :=
  match scriptZeros.find? fun first => first ≤ c.toNat && c.toNat < first + 10 with
  | some first => Char.ofNat (48 + (c.toNat - first))
  | none => c

/-- The blanks around an integer: those of a text, without the four separators from U+001C on. -/
def isMargin (c : Char) : Bool := isBlank c && !(28 ≤ c.toNat && c.toNat ≤ 31)

def trimMargin (text : List Char) : List Char :=
  ((text.dropWhile isMargin).reverse.dropWhile isMargin).reverse

/-- The digits of a numeral with single underscores between them. -/
def spacedDigits? (base : Nat) : List Char → Option (List Char)
  | [] => none
  | [c] => if isDigitIn base c then some [c] else none
  | c :: '_' :: rest =>
    if isDigitIn base c then (spacedDigits? base rest).map (c :: ·) else none
  | c :: rest => if isDigitIn base c then (spacedDigits? base rest).map (c :: ·) else none

def natural? (base : Nat) (text : List Char) : Option Nat :=
  (spacedDigits? base text).bind fun digits =>
    if admitsIn base digits.length then some (valueIn base digits) else none

def unmarked? (letter : Char) : List Char → Option (List Char)
  | '0' :: mark :: rest =>
    if mark.toLower = letter then some (match rest with | '_' :: more => more | _ => rest) else none
  | _ => none

def unmarked (letter : Option Char) (text : List Char) : List Char :=
  (letter.bind fun letter => unmarked? letter text).getD text

def integerIn? (base : Nat) (letter : Option Char) (text : List Char) : Option Int :=
  let magnitude (digits : List Char) : Option Int := (natural? base (unmarked letter digits)).map Int.ofNat
  match trimMargin (text.map plainDigit) with
  | '-' :: rest => (magnitude rest).map fun n => -n
  | '+' :: rest => magnitude rest
  | digits => magnitude digits

def integer? (text : List Char) : Option Int :=
  if (unmarked? 'x' text).isSome then integerIn? 16 (some 'x') text else integerIn? 10 none text

end HarvardBench.Text
