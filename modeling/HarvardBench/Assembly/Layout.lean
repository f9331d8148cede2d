import HarvardBench.Assembly.Line
import HarvardBench.Symbols

/-! Where the lines of a text lie in the program, and which address each label has.

A label has the address of the next line that takes one; a label behind them all
has the address after the last.
-/

set_option autoImplicit false

namespace HarvardBench.Assembly

structure Layout where
  lines : List Line := []
  symbols : Symbols := []
  offset : Nat := 0
  deriving DecidableEq, Repr

namespace Layout

def declare (layout : Layout) (line : Line) : Except Failure Layout :=
  match line.label with
  | none => .ok layout
  | some label =>
    if label ∈ layout.symbols.keys then .error (Problem.failureAt (.labelRepeated label) line.number)
    else .ok { layout with symbols := layout.symbols ++ [(label, (layout.offset : Int))] }

def place (layout : Layout) (line : Line) : Layout :=
  { layout with
    lines := layout.lines ++ [line]
    offset := if line.occupies then layout.offset + 1 else layout.offset }

def add (layout : Layout) (line : Line) : Except Failure Layout :=
  (layout.declare line).map fun declared => declared.place line

/-- Lay out uncommented lines that begin with a given line number. -/
def extend (layout : Layout) (number : Nat) : List (List Char) → Except Failure Layout
  | [] => .ok layout
  | text :: rest => do
    let line ← Line.parse number text
    let next ← layout.add line
    extend next (number + 1) rest

def ofText (text : List Char) : Except Failure Layout := extend {} 1 (sourceLines text)

end Layout

def labels (text : List Char) : Except Failure Symbols := (Layout.ofText text).map Layout.symbols

end HarvardBench.Assembly
