import HarvardBench.Text.CaseTable
import HarvardBench.Text.Runs

/-! Upper and lower case of a text. -/

set_option autoImplicit false

namespace HarvardBench.Text

namespace CaseRun

def covers (run : CaseRun) (n : Nat) : Bool :=
  run.first ≤ n && n ≤ run.last && (n - run.first) % run.stride == 0

def image (run : CaseRun) (n : Nat) : Nat := ((n : Int) + run.offset).toNat

end CaseRun

def mapped (runs : Array CaseRun) (c : Char) : Char :=
  match runs.find? fun run => run.covers c.toNat with
  | some run => Char.ofNat (run.image c.toNat)
  | none => c

def upperChar (c : Char) : List Char :=
  if c.toNat < 128 then [c.toUpper]
  else match upperExpansions.find? fun entry => entry.1 == c.toNat with
    | some entry => entry.2.map Char.ofNat
    | none => [mapped upperRuns c]

def upper (text : List Char) : List Char := text.flatMap upperChar

def lowerChar (c : Char) : List Char :=
  if c.toNat < 128 then [c.toLower]
  else if c.toNat = 0x130 then ['i', Char.ofNat 0x307]
  else [mapped lowerRuns c]

def isCased (c : Char) : Bool := inRuns casedBoundaries c.toNat

def isCaseIgnorable (c : Char) : Bool := inRuns ignorableBoundaries c.toNat

def touchesCased (neighbours : List Char) : Bool :=
  match neighbours.dropWhile isCaseIgnorable with
  | c :: _ => isCased c
  | [] => false

/-- The lower case of a text that follows another, which is given in reverse. A capital
sigma at the end of a word becomes the final form of the letter. -/
def lowerAfter (before : List Char) : List Char → List Char
  | [] => []
  | c :: rest =>
    let image :=
      if c.toNat = 0x3A3 then
        [Char.ofNat (if touchesCased before && !touchesCased rest then 0x3C2 else 0x3C3)]
      else lowerChar c
    image ++ lowerAfter (c :: before) rest

def lower (text : List Char) : List Char := lowerAfter [] text

end HarvardBench.Text
