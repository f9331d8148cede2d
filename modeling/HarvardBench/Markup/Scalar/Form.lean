import HarvardBench.Markup.Source
import HarvardBench.Text.Blank
import HarvardBench.Text.Numeral

/-! The forms by which plain scalars are told apart. -/

set_option autoImplicit false

namespace HarvardBench.Markup.Form

def isWord (words : List String) (text : List Char) : Bool :=
  words.any fun word =>
    let lower := word.toList
    let capital := match lower with
      | [] => []
      | c :: rest => c.toUpper :: rest
    text == lower || text == capital || text == lower.map Char.toUpper

def truthWords : List String := ["yes", "no", "true", "false", "on", "off"]

def isTruth (text : List Char) : Bool := isWord truthWords text

def isNull (text : List Char) : Bool :=
  text.isEmpty || text == ['~'] || isWord ["null"] text

def withoutSign : List Char → List Char
  | '+' :: rest => rest
  | '-' :: rest => rest
  | text => text

def isDigitOr (c : Char) : Bool := c.isDigit || c == '_'

/-- Digits and underscores that begin with a digit. -/
def isDigits : List Char → Bool
  | [] => false
  | c :: rest => c.isDigit && rest.all isDigitOr

def isSixtieth : List Char → Bool
  | [c] => c.isDigit
  | [c, d] => '0' ≤ c && c ≤ '5' && d.isDigit
  | _ => false

def isSexagesimal (first : List Char → Bool) (text : List Char) : Bool :=
  match Text.splitAtEach ':' text with
  | head :: second :: rest => first head && (second :: rest).all isSixtieth
  | _ => false

def startsNonZero (text : List Char) : Bool :=
  text.head? != some '0' && isDigits text

def isNonEmpty (text : List Char) (member : Char → Bool) : Bool := !text.isEmpty && text.all member

def isUnsignedInteger (text : List Char) : Bool :=
  match text with
  | ['0'] => true
  | '0' :: 'b' :: rest => isNonEmpty rest fun c => c == '0' || c == '1' || c == '_'
  | '0' :: 'x' :: rest => isNonEmpty rest fun c => Text.Radix.hexadecimal.isDigit c || c == '_'
  | '0' :: rest => rest.all fun c => ('0' ≤ c && c ≤ '7') || c == '_'
  | _ => startsNonZero text || isSexagesimal startsNonZero text

def isInteger (text : List Char) : Bool := isUnsignedInteger (withoutSign text)

def isExponent : List Char → Bool
  | [] => true
  | mark :: sign :: rest =>
    (mark == 'e' || mark == 'E') && (sign == '+' || sign == '-') && isNonEmpty rest Char.isDigit
  | _ => false

def isMantissaAndExponent (whole : List Char → Bool) (text : List Char) : Bool :=
  match text.dropWhile (· != '.') with
  | [] => false
  | _ :: rest => whole (text.takeWhile (· != '.')) && isExponent (rest.dropWhile isDigitOr)

def isSexagesimalFloat (text : List Char) : Bool :=
  match text.dropWhile (· != '.') with
  | [] => false
  | _ :: rest => rest.all isDigitOr && isSexagesimal isDigits (text.takeWhile (· != '.'))

/-- Numbers with a point, and the words for infinity and for what is no number. -/
def isFloat (text : List Char) : Bool :=
  let unsigned := withoutSign text
  isMantissaAndExponent isDigits unsigned ||
    (match text with
      | '.' :: c :: rest => c.isDigit && isExponent (rest.dropWhile isDigitOr)
      | _ => false) ||
    isSexagesimalFloat unsigned ||
    (match unsigned with
      | '.' :: rest => isWord ["inf"] rest
      | _ => false) ||
    (match text with
      | '.' :: rest => isWord ["nan"] rest && rest != "Nan".toList || rest == "NaN".toList
      | _ => false)

structure Clock where
  hour : List Char
  minute : List Char
  second : List Char
  fraction : Option (List Char)
  zone : Option (Option Char × List Char × List Char)
  deriving DecidableEq, Repr

structure Timestamp where
  year : List Char
  month : List Char
  day : List Char
  clock : Option Clock
  deriving DecidableEq, Repr

/-- Between a least and a largest number of digits, as many as there are. -/
def digits? (least most : Nat) (text : List Char) : Option (List Char × List Char) :=
  let found := (text.take most).takeWhile Char.isDigit
  if found.length < least then none else some (found, text.drop found.length)

def expect? (c : Char) : List Char → Option (List Char)
  | [] => none
  | d :: rest => if d = c then some rest else none

def date? (text : List Char) : Option (Timestamp × List Char) := do
  let (year, rest) ← digits? 4 4 text
  let (month, rest) ← digits? 1 2 (← expect? '-' rest)
  let (day, rest) ← digits? 1 2 (← expect? '-' rest)
  return (⟨year, month, day, none⟩, rest)

def zone? (text : List Char) : Option (Option (Option Char × List Char × List Char)) :=
  match text.dropWhile isGap with
  | [] => if text.isEmpty then some none else none
  | ['Z'] => some (some (none, [], []))
  | sign :: rest =>
    if sign = '+' ∨ sign = '-' then do
      let (hour, rest) ← digits? 1 2 rest
      if rest.isEmpty then return some (some sign, hour, [])
      let (minute, rest) ← digits? 2 2 (← expect? ':' rest)
      if rest.isEmpty then return some (some sign, hour, minute) else none
    else none

def fraction? : List Char → Option (List Char) × List Char
  | '.' :: rest => (some (rest.takeWhile Char.isDigit), rest.dropWhile Char.isDigit)
  | text => (none, text)

def clock? (text : List Char) : Option Clock := do
  let (hour, rest) ← digits? 1 2 text
  let (minute, rest) ← digits? 2 2 (← expect? ':' rest)
  let (second, rest) ← digits? 2 2 (← expect? ':' rest)
  let (fraction, rest) := fraction? rest
  return ⟨hour, minute, second, fraction, ← zone? rest⟩

def timeStart? : List Char → Option (List Char)
  | [] => none
  | c :: rest =>
    if c = 'T' ∨ c = 't' then some rest
    else if isGap c then some (rest.dropWhile isGap)
    else none

def withoutBreak (text : List Char) : List Char :=
  if text.getLast? = some '\n' then text.dropLast else text

def timestamp? (text : List Char) : Option Timestamp := do
  let (date, rest) ← date? text
  if rest.isEmpty then return date
  return { date with clock := some (← clock? (← timeStart? rest)) }

/-- A time without quotes has all ten characters of a date if it is only that. -/
def isTimestamp (text : List Char) : Bool :=
  match timestamp? text with
  | some found => found.clock.isSome || (found.month.length = 2 && found.day.length = 2)
  | none => false

end HarvardBench.Markup.Form
