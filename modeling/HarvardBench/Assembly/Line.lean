import HarvardBench.Assembly.Diagnostic
import HarvardBench.Isa.Register
import HarvardBench.Text.Blank
import HarvardBench.Text.WordChar

/-! Lines of a source text: a comment is cut off, and a label may stand before the code. -/

set_option autoImplicit false

namespace HarvardBench.Assembly

open Text

def uncommented (line : List Char) : List Char := line.takeWhile fun c => c != ';'

def sourceLines (text : List Char) : List (List Char) := (lines text).map uncommented

/-- Names that operands use and labels may not, in any letter case. -/
def isReserved (name : List Char) : Bool :=
  let lowered := name.map Char.toLower
  (Register.ofName? lowered).isSome || (Flag.ofName? lowered).isSome

structure Line where
  number : Nat
  label : Option String
  /-- The code, without blanks around it. -/
  code : List Char
  deriving DecidableEq, Repr

namespace Line

/-- A line takes an address if its code has more than one character. -/
def occupies (line : Line) : Bool := 1 < line.code.length

def labelProblem? (label code : List Char) : Option Problem :=
  if ':' ∈ code then some .twoLabels
  else if !isName label then some (.labelName (String.ofList label))
  else if isReserved label then some (.labelReserved (String.ofList label))
  else none

def parse (number : Nat) (text : List Char) : Except Failure Line :=
  let front := text.takeWhile fun c => c != ':'
  match text.dropWhile fun c => c != ':' with
  | [] => .ok ⟨number, none, trim text⟩
  | _ :: rest =>
    let label := trim front
    let code := trim rest
    match labelProblem? label code with
    | some problem => .error (problem.failureAt number)
    | none => .ok ⟨number, some (String.ofList label), code⟩

end Line

end HarvardBench.Assembly
