import HarvardBench.Data.Calendar
import HarvardBench.Decimal.Binary64
import HarvardBench.Text.Numeral
import HarvardBench.Text.Quoted

/-! Single values of plain data.

These are the values that can be keys. What counts as one key may be written in
several ways: whole numbers are compared by value in every form, times by their instant.
-/

set_option autoImplicit false

namespace HarvardBench

inductive Atom where
  | null
  | truth (value : Bool)
  | number (value : Int)
  | real (value : Float)
  /-- What is no number. Two of them are one key if they have the same origin: the word for
  it, or a place in a document that computes it. -/
  | notNumber (origin : Option Nat)
  | text (value : RawText)
  | date (value : Date)
  | moment (value : Moment)
  | bytes (value : List Nat)
  deriving Inhabited

namespace Atom

def kindName : Atom → String
  | null => "NoneType"
  | truth _ => "bool"
  | number _ => "int"
  | real _ | notNumber _ => "float"
  | text _ => "str"
  | date _ => "date"
  | moment _ => "datetime"
  | bytes _ => "bytes"

/-- Whether a value counts as something: not as nothing, zero, false or empty. -/
def isTruthy : Atom → Bool
  | null => false
  | truth value => value
  | number value => value != 0
  | real value => value != 0.0
  | text value => !value.isEmpty
  | notNumber _ | date _ | moment _ => true
  | bytes value => !value.isEmpty

def whole? : Atom → Option Int
  | truth value => some (if value then 1 else 0)
  | number value => some value
  | real value => Decimal.integer? value
  | _ => none

def sameKey (first second : Atom) : Bool :=
  match first.whole?, second.whole? with
  | some a, some b => a == b
  | some _, none | none, some _ => false
  | none, none =>
    match first, second with
    | null, null => true
    | real a, real b => a == b
    | notNumber a, notNumber b => a == b
    | text a, text b => a == b
    | date a, date b => a == b
    | moment a, moment b => a.same b
    | bytes a, bytes b => a == b
    | _, _ => false

/-! ### Printed form -/

def twoDigits (n : Nat) : List Char := (if n < 10 then ['0'] else []) ++ (toString n).toList

def padded (width n : Nat) : List Char :=
  let shown := (toString n).toList
  List.replicate (width - shown.length) '0' ++ shown

def dateText (value : Date) : List Char :=
  padded 4 value.year ++ '-' :: twoDigits value.month ++ '-' :: twoDigits value.day

def zoneText (zone : Int) : List Char :=
  (if zone < 0 then '-' else '+') :: twoDigits (zone.natAbs / 60) ++ ':' :: twoDigits (zone.natAbs % 60)

def momentText (value : Moment) : List Char :=
  dateText value.date ++ ' ' :: twoDigits value.hour ++ ':' :: twoDigits value.minute ++
    ':' :: twoDigits value.second ++
    (if value.microsecond = 0 then [] else '.' :: padded 6 value.microsecond) ++
    (value.zone.map zoneText).getD []

def joined (items : List (List Char)) : List Char := [',', ' '].intercalate items

def call (name : String) (arguments : List (List Char)) : List Char :=
  name.toList ++ '(' :: joined arguments ++ [')']

def naturals (values : List Nat) : List (List Char) := values.map fun n => (toString n).toList

def dateLiteral (value : Date) : List Char :=
  call "datetime.date" (naturals [value.year, value.month, value.day])

/-- A distance from universal time: days, then seconds below a day. -/
def zoneLiteral (zone : Int) : List Char :=
  if zone = 0 then "datetime.timezone.utc".toList
  else
    let seconds := zone % 1440 * 60
    let days := zone / 1440
    let parts := (if days = 0 then [] else [("days=" ++ toString days).toList]) ++
      (if seconds = 0 then [] else [("seconds=" ++ toString seconds).toList])
    call "datetime.timezone" [call "datetime.timedelta" parts]

def momentLiteral (value : Moment) : List Char :=
  let clock :=
    if value.microsecond ≠ 0 then [value.hour, value.minute, value.second, value.microsecond]
    else if value.second ≠ 0 then [value.hour, value.minute, value.second]
    else [value.hour, value.minute]
  call "datetime.datetime"
    (naturals ([value.date.year, value.date.month, value.date.day] ++ clock) ++
      (value.zone.map fun zone => "tzinfo=".toList ++ zoneLiteral zone).toList)

/-- A value as it stands inside a collection; none for an integer with too many digits. -/
def literal? : Atom → Option (List Char)
  | null => some "None".toList
  | truth value => some (if value then "True" else "False").toList
  | number value => if Text.isShowable value then some (toString value).toList else none
  | real value => some (Decimal.text value).toList
  | notNumber _ => some "nan".toList
  | text value => some (Text.quoted value)
  | date value => some (dateLiteral value)
  | moment value => some (momentLiteral value)
  | bytes value => some (Text.quotedBytes value)

/-- A value on its own: text and times as they are, everything else as inside a collection. -/
def shown? : Atom → Option RawText
  | text value => some value
  | date value => some (.ofChars (dateText value))
  | moment value => some (.ofChars (momentText value))
  | other => other.literal?.map .ofChars

end Atom

end HarvardBench
