import HarvardBench.Text.CodePoint
import HarvardBench.Text.PrintTable
import HarvardBench.Text.Runs

/-! Quoted text.

A text stands between single quotes, or between double quotes if it holds a single
quote and no double one. The quote and the backslash are escaped, line ends and tabs
by letters, and unprintable characters and surrogates by number.
-/

set_option autoImplicit false

namespace HarvardBench.Text

def isPrintable (c : Char) : Bool := !inRuns unprintableBoundaries c.toNat

def hexDigits : (count : Nat) → (value : Nat) → List Char
  | 0, _ => []
  | count + 1, value => hexDigits count (value / 16) ++ [Nat.digitChar (value % 16)]

def numberEscape (value : Nat) : List Char :=
  if value < 0x100 then '\\' :: 'x' :: hexDigits 2 value
  else if value < 0x10000 then '\\' :: 'u' :: hexDigits 4 value
  else '\\' :: 'U' :: hexDigits 8 value

def singleQuote : Char := Char.ofNat 39

def doubleQuote : Char := Char.ofNat 34

def quoteFor (text : List Char) : Char :=
  if singleQuote ∈ text ∧ doubleQuote ∉ text then doubleQuote else singleQuote

def quotedChar (quote : Char) (isShown : Char → Bool) (c : Char) : List Char :=
  if c = quote ∨ c = '\\' then ['\\', c]
  else if c = '\t' then ['\\', 't']
  else if c = '\n' then ['\\', 'n']
  else if c = '\r' then ['\\', 'r']
  else if isShown c then [c]
  else numberEscape c.toNat

def quotedPoint (quote : Char) (isShown : Char → Bool) : CodePoint → List Char
  | .char c => quotedChar quote isShown c
  | point => numberEscape point.toNat

def quotedWith (isShown : Char → Bool) (text : RawText) : List Char :=
  let quote := quoteFor text.chars
  quote :: text.flatMap (quotedPoint quote isShown) ++ [quote]

def quoted (text : RawText) : List Char := quotedWith isPrintable text

/-- Bytes are quoted as if each were a character, with those beyond ASCII as numbers. -/
def quotedBytes (bytes : List Nat) : List Char :=
  'b' :: quotedWith (fun c => 32 ≤ c.toNat && c.toNat < 127) (.ofChars (bytes.map Char.ofNat))

end HarvardBench.Text
