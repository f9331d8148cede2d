import HarvardBench.Text.Numeral

/-! What can be wrong with assembly text, and how it is reported.

A problem is a cause. A diagnostic is its report, with the line where that is
known. A numeral too long to be read or shown is no diagnostic and has no line.
-/

set_option autoImplicit false

namespace HarvardBench.Assembly

/-- What stands at the reading position; nothing at the end of the text. -/
abbrev Found := Option Char

def Found.text : Found → String
  | some c => c.toString
  | none => "EOL"

inductive Problem where
  | comma (found : Found)
  | trailing (found : Found)
  | registerMissing
  | registerShape (found : Found)
  | registerName (name : String)
  | sigil (expected : Char) (found : Found)
  | digits (found : Found)
  | immediate (value : Nat)
  | carryWord (received : String)
  | flagName (received : String)
  | flagRepeated (name : String)
  | emptyStatement
  | mnemonic (name : String)
  | twoLabels
  | labelName (label : String)
  | labelReserved (label : String)
  | labelRepeated (label : String)
  | labelUnknown (label : String)
  deriving DecidableEq, Repr

inductive Diagnostic.Kind where
  | general
  | form
  | instruction
  | unknownLabel
  | register
  | flag
  | range
  | twoLabels
  | duplicateLabel
  deriving DecidableEq, Repr

structure Diagnostic where
  kind : Diagnostic.Kind
  text : String
  line : Option Int := none
  deriving DecidableEq, Repr

namespace Diagnostic

def message (diagnostic : Diagnostic) : String :=
  match diagnostic.line with
  | some line => s!"Line {line}: {diagnostic.text}"
  | none => diagnostic.text

def atLine (diagnostic : Diagnostic) (line : Int) : Diagnostic :=
  match diagnostic.line with
  | some _ => diagnostic
  | none => { diagnostic with line := some line }

end Diagnostic

inductive Failure where
  | reported (diagnostic : Diagnostic)
  | numeralTooLong
  deriving DecidableEq, Repr

def Failure.atLine (failure : Failure) (line : Int) : Failure :=
  match failure with
  | reported diagnostic => reported (diagnostic.atLine line)
  | numeralTooLong => numeralTooLong

namespace Problem

def kind : Problem → Diagnostic.Kind
  | comma _ | trailing _ | sigil .. | digits _ | carryWord _ | emptyStatement | labelName _
  | labelReserved _ => .form
  | registerMissing | registerShape _ | registerName _ => .register
  | immediate _ => .range
  | flagName _ | flagRepeated _ => .flag
  | mnemonic _ => .instruction
  | twoLabels => .twoLabels
  | labelRepeated _ => .duplicateLabel
  | labelUnknown _ => .unknownLabel

def text : Problem → String
  | comma found => s!"Expected ',' received '{found.text}'"
  | trailing found => s!"Expected EOL, received '{found.text}'"
  | registerMissing => "Expected register, received 'EOL'"
  | registerShape found => s!"Invalid register '{found.text}'"
  | registerName name => s!"Invalid register '{name}'"
  | sigil expected found => s!"Expected '{expected}'. Received '{found.text}'"
  | digits found => s!"Expected value. Received '{found.text}'"
  | immediate value => s!"Value must be in range 0..255, received {value}"
  | carryWord received => s!"Expected 'carry'. Received '{received}'"
  | flagName received => s!"Invalid flag. Expected 'carry' or 'zero'. Received '{received}'"
  | flagRepeated name => s!"Flag '{name}' specified more than once"
  | emptyStatement => "Expected instruction. Received EOL"
  | mnemonic name => s!"Invalid instruction '{name}'"
  | twoLabels => "Cannot declare two labels on the same line."
  | labelName label => s!"Invalid label name '{label}'"
  | labelReserved label => s!"'{label}' is a reserved word and cannot be used as a label"
  | labelRepeated label => s!"Label '{label}' is already declared"
  | labelUnknown label => s!"Unknown label '{label}'"

def shown : Problem → List Int
  | immediate value => [value]
  | _ => []

def diagnostic (problem : Problem) (line : Option Int) : Diagnostic :=
  ⟨problem.kind, problem.text, line⟩

def failure (problem : Problem) : Failure :=
  if problem.shown.all Text.isShowable then .reported (problem.diagnostic none)
  else .numeralTooLong

def failureAt (problem : Problem) (line : Int) : Failure := problem.failure.atLine line

end Problem

end HarvardBench.Assembly
