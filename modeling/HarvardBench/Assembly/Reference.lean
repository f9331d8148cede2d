import HarvardBench.Assembly.Line
import HarvardBench.Symbols

/-! Label references in operands.

A name in the operands refers to a label unless it is reserved, or follows a word
character, a dollar or a number sign. A reference is replaced by the address of
its label, written as a decimal program address.
-/

set_option autoImplicit false

namespace HarvardBench.Assembly

open Text

/-- A part of the operands: a name that can refer to a label, or any other character. -/
inductive Piece where
  | name (text : List Char)
  | other (c : Char)
  deriving DecidableEq, Repr

namespace Piece

def text : Piece → List Char
  | name text => text
  | other c => [c]

def attaches (c : Char) : Bool := isWordChar c || c == '$' || c == '#'

/-- The pieces of a text. The flag tells that no name may begin at its front. -/
def split (attached : Bool) : List Char → List Piece
  | [] => []
  | c :: rest =>
    if !attached && isNameStart c then
      name (c :: rest.takeWhile isNameChar) :: split true (rest.dropWhile isNameChar)
    else other c :: split (attaches c) rest
termination_by text => text.length
decreasing_by
  · have := (List.dropWhile_sublist isNameChar (l := rest)).length_le
    simp only [List.length_cons]
    omega
  · simp

def reference? : Piece → Option String
  | name text => if isReserved text then none else some (String.ofList text)
  | other _ => none

def resolve (symbols : Symbols) (piece : Piece) : Except Problem (List Char) :=
  match piece.reference? with
  | none => .ok piece.text
  | some label =>
    match symbols.get? label with
    | some address => .ok ("$$d" ++ toString address).toList
    | none => .error (.labelUnknown label)

end Piece

def resolvePieces (symbols : Symbols) : List Piece → Except Problem (List Char)
  | [] => .ok []
  | piece :: rest => do
    let front ← piece.resolve symbols
    let back ← resolvePieces symbols rest
    return front ++ back

def resolveOperands (symbols : Symbols) (operands : List Char) : Except Problem (List Char) :=
  resolvePieces symbols (Piece.split false operands)

/-- Resolve the operands of a statement, and put one space before them. Code that is a
single word stays as it is. -/
def resolveCode (symbols : Symbols) (code : List Char) : Except Problem (List Char) :=
  match splitWord code with
  | (_, []) => .ok code
  | (mnemonic, operands) =>
    (resolveOperands symbols operands).map fun resolved => mnemonic ++ ' ' :: resolved

def Line.resolve (line : Line) (symbols : Symbols) : Except Failure Line :=
  match resolveCode symbols line.code with
  | .ok code => .ok { line with code }
  | .error problem => .error (problem.failureAt line.number)

end HarvardBench.Assembly
