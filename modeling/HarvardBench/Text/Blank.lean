/-! Blank characters, and cutting text at them. -/

set_option autoImplicit false

namespace HarvardBench.Text

/-- The white space of Unicode, together with the four separators from U+001C on. -/
def isBlank (c : Char) : Bool :=
  let n := c.toNat
  (9 ≤ n && n ≤ 13) || (28 ≤ n && n ≤ 32) || n == 0x85 || n == 0xA0 || n == 0x1680 ||
    (0x2000 ≤ n && n ≤ 0x200A) || n == 0x2028 || n == 0x2029 || n == 0x202F || n == 0x205F ||
    n == 0x3000

def trimLeft (text : List Char) : List Char := text.dropWhile isBlank

def trimRight (text : List Char) : List Char := (text.reverse.dropWhile isBlank).reverse

def trim (text : List Char) : List Char := trimRight (trimLeft text)

def splitWord (text : List Char) : List Char × List Char :=
  let text := trimLeft text
  (text.takeWhile fun c => !isBlank c, trimLeft (text.dropWhile fun c => !isBlank c))

def splitAtEach (separator : Char) : List Char → List (List Char)
  | [] => [[]]
  | c :: rest =>
    match splitAtEach separator rest with
    | [] => [[]]
    | part :: parts => if c = separator then [] :: part :: parts else (c :: part) :: parts

theorem splitAtEach_ne_nil (separator : Char) (text : List Char) :
    splitAtEach separator text ≠ [] := by
  cases text with
  | nil => simp [splitAtEach]
  | cons c rest =>
    simp only [splitAtEach]
    split
    · simp
    · split <;> simp

def lines (text : List Char) : List (List Char) := splitAtEach '\n' text

end HarvardBench.Text
