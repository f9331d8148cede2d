import HarvardBench.Assembly.Layout
import HarvardBench.Assembly.Reference
import HarvardBench.Assembly.Statement

/-! Whole programs.

The first problem ends the work: first of the labels of all lines, then of the
references of all lines, then of the statements.
-/

set_option autoImplicit false

namespace HarvardBench.Assembly

structure Program where
  words : List Word
  symbols : Symbols
  deriving DecidableEq, Repr

def resolveText (text : List Char) : Except Failure (List Line × Symbols) := do
  let layout ← Layout.ofText text
  let lines ← layout.lines.mapM fun line => line.resolve layout.symbols
  return (lines, layout.symbols)

def Line.word (line : Line) : Except Failure Word :=
  match statementWord line.code with
  | .ok word => .ok word
  | .error failure => .error (failure.atLine line.number)

def statements (lines : List Line) : List Line := lines.filter fun line => !line.code.isEmpty

def assemble (text : List Char) : Except Failure Program := do
  let (lines, symbols) ← resolveText text
  let words ← (statements lines).mapM Line.word
  return ⟨words, symbols⟩

end HarvardBench.Assembly
