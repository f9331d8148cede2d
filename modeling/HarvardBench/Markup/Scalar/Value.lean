import HarvardBench.Decimal.Binary64
import HarvardBench.Markup.Scalar.Form
import HarvardBench.Text.Integer
import HarvardBench.Text.LetterCase
import HarvardBench.Data.Atom

/-! What scalars stand for. -/

set_option autoImplicit false

namespace HarvardBench.Markup.Scalar

def orElse {α : Type} (found : Option α) (failure : Failure) : Except Failure α :=
  match found with
  | some value => .ok value
  | none => .error failure

def withoutUnderscores (text : List Char) : List Char := text.filter (· != '_')

def splitSign (text : List Char) : Bool × List Char :=
  (text.head? == some '-', Form.withoutSign text)

/-! ### Integers -/

def sexagesimal? (text : List Char) : Option Int :=
  (Text.splitAtEach ':' text).foldlM
    (fun total part => (Text.integerIn? 10 none part).map fun value => total * 60 + value) 0

def unsignedInteger? (text : List Char) : Option Int :=
  match text with
  | ['0'] => some 0
  | '0' :: 'b' :: rest => Text.integerIn? 2 (some 'b') rest
  | '0' :: 'x' :: rest => Text.integerIn? 16 (some 'x') rest
  | '0' :: _ => Text.integerIn? 8 (some 'o') text
  | _ => if ':' ∈ text then sexagesimal? text else Text.integerIn? 10 none text

def integer (text : List Char) : Except Failure Int :=
  let digits := withoutUnderscores text
  let (negative, unsigned) := splitSign digits
  if unsigned.isEmpty then .error .emptyNumber
  else
    (orElse (unsignedInteger? unsigned) .number).map fun value => if negative then -value else value

/-! ### Numbers with a point -/

/-- Digits with an optional point among them: their number and the count behind the point. -/
def mantissa? (text : List Char) : Option (Nat × Nat) :=
  let whole := text.takeWhile Char.isDigit
  let rest := text.dropWhile Char.isDigit
  match rest with
  | [] => if whole.isEmpty then none else some (Text.Radix.decimal.value whole, 0)
  | '.' :: fraction =>
    if fraction.all Char.isDigit && !(whole.isEmpty && fraction.isEmpty) then
      some (Text.Radix.decimal.value (whole ++ fraction), fraction.length)
    else none
  | _ => none

def exponent? (text : List Char) : Option Int :=
  match text with
  | [] => some 0
  | _ :: rest =>
    let (negative, digits) := splitSign rest
    if Form.isNonEmpty digits Char.isDigit then
      let value : Int := Text.Radix.decimal.value digits
      some (if negative then -value else value)
    else none

def unsignedReal? (text : List Char) : Option Float :=
  if text = "inf".toList ∨ text = "infinity".toList then some (1.0 / 0.0)
  else if text = "nan".toList then some (0.0 / 0.0)
  else do
    let (digits, places) ← mantissa? (text.takeWhile (· != 'e'))
    let exponent ← exponent? (text.dropWhile (· != 'e'))
    return Decimal.nearest digits (exponent - places)

def real? (text : List Char) : Option Float :=
  let (negative, unsigned) := splitSign (Text.trimMargin (text.map Text.plainDigit))
  (unsignedReal? unsigned).map fun value => if negative then -value else value

/-- The sum of parts to the base sixty, the lowest first. The value of each place has to be
in the range of numbers with a point. -/
def sumSexagesimal : Nat → Float → List Float → Except Failure Float
  | _, total, [] => .ok total
  | base, total, part :: rest =>
    if base < 2 ^ 1024 then sumSexagesimal (base * 60) (total + part * Float.ofNat base) rest
    else .error .magnitude

def noNumberWord : List Char := ".nan".toList

def unsignedFloat (text : List Char) : Except Failure Float :=
  if text = ".inf".toList then .ok (1.0 / 0.0)
  else if text = noNumberWord then .ok (0.0 / 0.0)
  else if ':' ∈ text then do
    let parts ← orElse ((Text.splitAtEach ':' text).mapM real?) .number
    sumSexagesimal 1 0.0 parts.reverse
  else orElse (real? text) .number

def float (place : Nat) (text : List Char) : Except Failure Atom := do
  let lowered := Text.lower (withoutUnderscores text)
  if lowered.isEmpty then throw .emptyNumber
  let (negative, unsigned) := splitSign lowered
  let value ← unsignedFloat unsigned
  if value != value then return .notNumber (if unsigned = noNumberWord then none else some place)
  return .real (if negative then -value else value)

/-! ### Truth values -/

def truth (text : List Char) : Except Failure Bool :=
  let lowered := Text.lower text
  if ["yes", "true", "on"].any fun word => word.toList == lowered then .ok true
  else if ["no", "false", "off"].any fun word => word.toList == lowered then .ok false
  else .error .truth

/-! ### Times -/

def natural (digits : List Char) : Nat := Text.Radix.decimal.value digits

/-- The first six digits behind the point of a second, with zeros for missing ones. -/
def microseconds (fraction : Option (List Char)) : Nat :=
  let digits := (fraction.getD []).take 6
  natural (digits ++ List.replicate (6 - digits.length) '0')

def zoneMinutes (zone : Option Char × List Char × List Char) : Int :=
  let (sign, hour, minute) := zone
  let distance : Int := natural hour * 60 + natural minute
  if sign = some '-' then -distance else distance

/-- A moment whose parts are in their ranges, less than a day from universal time. -/
def moment (date : Date) (clock : Form.Clock) : Except Failure Moment :=
  let hour := natural clock.hour
  let minute := natural clock.minute
  let second := natural clock.second
  let zone := clock.zone.map zoneMinutes
  if hour < 24 && minute < 60 && second < 60 && ((zone.map Int.natAbs).getD 0) < 1440 then
    .ok ⟨date, hour, minute, second, microseconds clock.fraction, zone⟩
  else .error .calendar

def time (text : List Char) : Except Failure Atom := do
  let found ← orElse (Form.timestamp? (Form.withoutBreak text)) .timeForm
  let date : Date := ⟨natural found.year, natural found.month, natural found.day⟩
  match found.clock with
  | none => if date.isInCalendar then return .date date else throw .calendar
  | some clock =>
    let value ← moment date clock
    if date.isInCalendar then return .moment value else throw .calendar

/-! ### Bytes -/

def sextet? (c : Char) : Option Nat :=
  if 'A' ≤ c ∧ c ≤ 'Z' then some (c.toNat - 65)
  else if 'a' ≤ c ∧ c ≤ 'z' then some (c.toNat - 71)
  else if c.isDigit then some (c.toNat + 4)
  else if c = '+' then some 62
  else if c = '/' then some 63
  else none

/-- Read groups of four characters with six bits each; other characters are passed over. In
a group, `phase` characters are read already, `left` are their bits that make no byte yet,
and `pads` is the number of padding signs at its end. -/
def groups (phase left pads : Nat) : List Char → Option (List Nat)
  | [] => if phase = 0 then some [] else none
  | c :: rest =>
    if c = '=' then
      if phase < 2 then groups phase left pads rest
      else if 4 ≤ phase + (pads + 1) then some []
      else groups phase left (pads + 1) rest
    else
      match sextet? c with
      | none => groups phase left pads rest
      | some value =>
        match phase with
        | 0 => groups 1 value 0 rest
        | 1 => (groups 2 (value % 16) 0 rest).map ((left * 4 + value / 16) :: ·)
        | 2 => (groups 3 (value % 4) 0 rest).map ((left * 16 + value / 4) :: ·)
        | _ => (groups 0 0 0 rest).map ((left * 64 + value) :: ·)

def bytes (text : List Char) : Except Failure (List Nat) :=
  if text.all fun c => c.toNat < 128 then orElse (groups 0 0 0 text) .malformed
  else .error .malformed

end HarvardBench.Markup.Scalar
