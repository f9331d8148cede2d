/-! The shortest decimal that reads back as a binary number.

A positive number is a significand times a power of two. The numbers that round
to it form an interval, whose ends belong to it exactly if the significand is even.
Among the decimals of the interval with the fewest digits the nearest is taken.
-/

set_option autoImplicit false

namespace HarvardBench.Decimal

/-- A positive number `numerator / denominator` with the interval that rounds to it, all
three over one denominator. -/
structure Interval where
  low : Nat
  value : Nat
  high : Nat
  denominator : Nat
  closed : Bool
  deriving Repr

/-- The interval of `significand * 2 ^ exponent`. At the foot of a binade the gap below is
half of the gap above. -/
def Interval.ofBinary (significand : Nat) (exponent : Int) (foot : Bool) : Interval :=
  let shift := exponent - 2
  let up := 1 <<< shift.toNat
  { low := (4 * significand - if foot then 1 else 2) * up
    value := 4 * significand * up
    high := (4 * significand + 2) * up
    denominator := 1 <<< (-shift).toNat
    closed := significand % 2 == 0 }

/-- A decimal `digits * 10 ^ exponent`. -/
structure Numeral where
  digits : Nat
  exponent : Int
  deriving DecidableEq, Repr

def powerOfTen (exponent : Int) : Nat := Nat.pow 10 exponent.toNat

def Interval.contains (interval : Interval) (decimal : Numeral) : Bool :=
  let point := decimal.digits * powerOfTen decimal.exponent * interval.denominator
  let scale := powerOfTen (-decimal.exponent)
  if interval.closed then interval.low * scale ≤ point && point ≤ interval.high * scale
  else interval.low * scale < point && point < interval.high * scale

def Interval.magnitude (interval : Interval) : Int :=
  let reaches (exponent : Int) : Bool :=
    powerOfTen exponent * interval.denominator ≤ interval.value * powerOfTen (-exponent)
  match (List.range 800).find? fun (step : Nat) => reaches (399 - step) with
  | some step => 399 - step
  | none => -400

def Interval.neighbours (interval : Interval) (exponent : Int) : Numeral × Numeral :=
  let floor := interval.value * powerOfTen (-exponent) / (interval.denominator * powerOfTen exponent)
  (⟨floor, exponent⟩, ⟨floor + 1, exponent⟩)

def Interval.prefersUpper (interval : Interval) (lower : Numeral) : Bool :=
  let unit := interval.denominator * powerOfTen lower.exponent
  let twice := 2 * interval.value * powerOfTen (-lower.exponent)
  let middle := (2 * lower.digits + 1) * unit
  middle < twice || (middle == twice && lower.digits % 2 == 1)

def Interval.onGrid? (interval : Interval) (exponent : Int) : Option Numeral :=
  let (lower, upper) := interval.neighbours exponent
  match interval.contains lower && lower.digits != 0, interval.contains upper with
  | true, true => some (if interval.prefersUpper lower then upper else lower)
  | true, false => some lower
  | false, true => some upper
  | false, false => none

/-- Seventeen digits always suffice. -/
def Interval.shortest (interval : Interval) : Numeral :=
  let top := interval.magnitude
  ((List.range 17).findSome? fun (step : Nat) => interval.onGrid? (top - step)).getD
    (interval.neighbours (top - 16)).1

end HarvardBench.Decimal
