import HarvardBench.Decimal.Shortest

/-! Binary numbers of sixty-four bits as decimal text.

The text has the fewest digits that read back. It is positional for magnitudes from
0.0001 up to, and without, 10 to the sixteenth, and then has a fractional part;
elsewhere it has an exponent of two digits at least.
-/

set_option autoImplicit false

namespace HarvardBench.Decimal

/-- Digits on both sides of a point that stands behind the given number of digits. -/
def positional (digits : List Char) (point : Int) : List Char :=
  if point ≤ 0 then ['0', '.'] ++ List.replicate (-point).toNat '0' ++ digits
  else if digits.length ≤ point.toNat then
    digits ++ List.replicate (point.toNat - digits.length) '0' ++ ['.', '0']
  else digits.take point.toNat ++ '.' :: digits.drop point.toNat

def scientific (digits : List Char) (exponent : Int) : List Char :=
  let mantissa := match digits with
    | [] => []
    | [only] => [only]
    | first :: more => first :: '.' :: more
  let size := (toString exponent.natAbs).toList
  mantissa ++ ['e', if exponent < 0 then '-' else '+'] ++
    (if size.length < 2 then '0' :: size else size)

def significantDigits (n : Nat) : List Char :=
  ((toString n).toList.reverse.dropWhile (· == '0')).reverse

def magnitudeText (decimal : Numeral) : List Char :=
  let point : Int := (toString decimal.digits).length + decimal.exponent
  let digits := significantDigits decimal.digits
  if -4 < point ∧ point ≤ 16 then positional digits point
  else scientific digits (point - 1)

structure Fields where
  negative : Bool
  exponent : Nat
  fraction : Nat

def fields (number : Float) : Fields :=
  let bits := number.toBits.toNat
  ⟨1 <<< 63 ≤ bits, bits / (1 <<< 52) % 2048, bits % (1 <<< 52)⟩

def magnitude (fields : Fields) : List Char :=
  if fields.exponent = 2047 then if fields.fraction = 0 then ['i', 'n', 'f'] else ['n', 'a', 'n']
  else if fields.exponent = 0 then
    if fields.fraction = 0 then ['0', '.', '0']
    else magnitudeText (Interval.ofBinary fields.fraction (-1074) false).shortest
  else
    let foot := fields.fraction = 0 && 1 < fields.exponent
    magnitudeText (Interval.ofBinary ((1 <<< 52) + fields.fraction) (fields.exponent - 1075) foot).shortest

def text (number : Float) : String :=
  let parts := fields number
  let sign := if parts.negative && !(parts.exponent = 2047 && parts.fraction ≠ 0) then ['-'] else []
  String.ofList (sign ++ magnitude parts)

def integer? (number : Float) : Option Int :=
  let parts := fields number
  let signed (n : Nat) : Int := if parts.negative then -n else n
  if parts.exponent = 2047 then none
  else if parts.exponent = 0 then if parts.fraction = 0 then some 0 else none
  else
    let significand := (1 <<< 52) + parts.fraction
    if 1075 ≤ parts.exponent then some (signed (significand * (1 <<< (parts.exponent - 1075))))
    else
      let unit := 1 <<< (1075 - parts.exponent)
      if significand % unit = 0 then some (signed (significand / unit)) else none

/-- The number nearest to a decimal. No number is as large as 10 to the power 400, and
all magnitudes below its inverse are nearest to zero. -/
def nearest (digits : Nat) (exponent : Int) : Float :=
  let size := exponent + (toString digits).length
  if digits = 0 ∨ size < -400 then 0.0
  else if 400 < size then 1.0 / 0.0
  else Float.ofScientific digits (exponent < 0) exponent.natAbs

end HarvardBench.Decimal
