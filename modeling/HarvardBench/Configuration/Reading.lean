import HarvardBench.Configuration.Settings
import HarvardBench.Data.Tree
import HarvardBench.Text.Integer
import HarvardBench.Text.LetterCase

/-! Settings from plain data.

Missing entries have their default values, and a section that counts as nothing is
an empty one. The entries are read in a fixed order and the first failure counts.
-/

set_option autoImplicit false

namespace HarvardBench.Settings

variable [Host]

abbrev Entries := List (Atom × Tree)

def Failure.ofPrint : PrintFailure → Failure
  | .numeral => .numeralTooLong
  | .nesting => .nesting

def shownText (store : Store) (tree : Tree) : Except Failure RawText :=
  (store.shown tree).mapError .ofPrint

def notInteger {α : Type} (store : Store) (tree : Tree) : Except Failure α := do
  let shown ← shownText store tree
  throw (Problem.failure (.integer shown))

/-- A number, or a text that is one. Truth values are no integers. -/
def integer (store : Store) (tree : Tree) : Except Failure Int :=
  match tree with
  | .atom (.number value) => .ok value
  | .atom (.text text) =>
    match Text.integer? text.chars with
    | some value => .ok value
    | none => notInteger store tree
  | _ => notInteger store tree

def sectionOf (store : Store) (tree : Option Tree) : Except Failure Entries :=
  match tree.map store.resolve with
  | none => .ok []
  | some (.map entries) => .ok entries
  | some other => if other.isTruthy then .error .section else .ok []

def integerAt (store : Store) (entries : Entries) (key : String) (default : Int) :
    Except Failure Int :=
  match Tree.entry? entries key with
  | some tree => integer store tree
  | none => .ok default

def truthAt (store : Store) (entries : Entries) (key : String) : Bool :=
  ((Tree.entry? entries key).map fun tree => (store.resolve tree).isTruthy).getD false

/-- Register names are texts of any keys, in lower case. -/
def registerName (store : Store) (key : Atom) : Except Failure RawText := do
  let shown ← shownText store (.atom key)
  return shown.mapRuns Text.lower

def registers (store : Store) (known : Table RawText Int) :
    Entries → Except Failure (Table RawText Int)
  | [] => .ok known
  | (key, tree) :: rest => do
    let value ← integer store tree
    let name ← registerName store key
    registers store (known.put name value) rest

def initialOf (store : Store) (entries : Entries) : Except Failure InitialState := do
  let named ← sectionOf store (Tree.entry? entries "registers")
  let values ← registers store [] named
  let ip ← integerAt store entries "ip" 0
  let flags ← sectionOf store (Tree.entry? entries "flags")
  return {
    ip, registers := values
    flags := ⟨truthAt store flags "carry", truthAt store flags "zero"⟩ }

def architectureOf (store : Store) (entries : Entries) : Except Failure RawText :=
  match Tree.entry? entries "architecture" with
  | some tree => shownText store tree
  | none => .ok ({} : Settings).architecture

def ofEntries (store : Store) (entries : Entries) : Except Failure Settings := do
  let defaults : Settings := {}
  let state ← sectionOf store (Tree.entry? entries "initial_state")
  let initial ← initialOf store state
  let architecture ← architectureOf store entries
  let memory ← sectionOf store (Tree.entry? entries "memory")
  let ramSize ← integerAt store memory "ram_size" defaults.ramSize
  let romSize ← integerAt store memory "rom_size" defaults.romSize
  let depth ← integerAt store entries "call_stack_depth" defaults.depth
  let fill ← integerAt store memory "ram_fill" defaults.fill
  let historyLimit ← integerAt store entries "history_limit" defaults.historyLimit
  return { architecture, ramSize, romSize, depth, fill, historyLimit, initial }

def ofData (data : Data) : Except Failure Settings :=
  match data.store.resolve data.root with
  | .map entries => ofEntries data.store entries
  | other => .error (Problem.failure (.root other.kindName))

def ofTree (tree : Tree) : Except Failure Settings := ofData ⟨#[], tree⟩

/-- A document that counts as nothing is an empty mapping. -/
def ofDocument (data : Data) : Except Failure Settings :=
  if (data.store.resolve data.root).isTruthy then ofData data else ofTree (.map [])

end HarvardBench.Settings
