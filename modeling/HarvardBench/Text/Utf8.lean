import HarvardBench.Word

/-! Text in bytes, and its line ends. -/

set_option autoImplicit false

namespace HarvardBench.Text

def trailing (first : Nat) : Nat → List Byte → Option (Nat × List Byte)
  | 0, rest => some (first, rest)
  | count + 1, byte :: rest =>
    if 0x80 ≤ byte.toNat ∧ byte.toNat < 0xC0 then trailing (first * 64 + (byte.toNat - 0x80)) count rest
    else none
  | _ + 1, [] => none

/-- A character of several bytes: neither longer than needed, nor a surrogate, nor too large. -/
def longChar? (first count least : Nat) (rest : List Byte) : Option (Char × List Byte) :=
  match trailing first count rest with
  | some (value, rest) =>
    if least ≤ value ∧ value.isValidChar then some (Char.ofNat value, rest) else none
  | none => none

def decodeChar? : List Byte → Option (Char × List Byte)
  | [] => none
  | byte :: rest =>
    let n := byte.toNat
    if n < 0x80 then some (Char.ofNat n, rest)
    else if n < 0xC0 then none
    else if n < 0xE0 then longChar? (n - 0xC0) 1 0x80 rest
    else if n < 0xF0 then longChar? (n - 0xE0) 2 0x800 rest
    else if n < 0xF8 then longChar? (n - 0xF0) 3 0x10000 rest
    else none

def decodeFrom : Nat → List Byte → Option (List Char)
  | _, [] => some []
  | 0, _ :: _ => none
  | fuel + 1, bytes =>
    match decodeChar? bytes with
    | some (c, rest) => (decodeFrom fuel rest).map (c :: ·)
    | none => none

/-- The text of some bytes. Any byte that does not belong to a character refuses all. -/
def decodeUtf8? (bytes : List Byte) : Option (List Char) := decodeFrom bytes.length bytes

/-- Every carriage return, with a line feed behind it or not, becomes one line feed. -/
def unifyLineEnds : List Char → List Char
  | [] => []
  | '\r' :: '\n' :: rest => '\n' :: unifyLineEnds rest
  | c :: rest => (if c = '\r' then '\n' else c) :: unifyLineEnds rest

end HarvardBench.Text
