import HarvardBench.Host
import HarvardBench.Markup.NodeReader

/-! Documents: what may stand before, around and behind the nodes. -/

set_option autoImplicit false

namespace HarvardBench.Markup

open TokenReader

variable [Host]

def defaultHandles : Table (List Char) (List Char) :=
  [(['!'], ['!']), (['!', '!'], Tag.standardLead)]

structure Declarations where
  versioned : Bool := false
  handles : Table (List Char) (List Char) := []

namespace Declarations

/-- A version has to be of the first generation, and neither a version nor a handle can be
declared twice. Tokens that are no directives declare nothing. -/
def declare (known : Declarations) : Token → Except Failure Declarations
  | .version major =>
    if known.versioned || major != 1 then .error .malformed else .ok { known with versioned := true }
  | .tagHandle handle lead =>
    if known.handles.keys.contains handle then .error .malformed
    else .ok { known with handles := known.handles ++ [(handle, lead)] }
  | _ => .ok known

def allHandles (known : Declarations) : Table (List Char) (List Char) :=
  known.handles ++ defaultHandles

end Declarations

/-- Read directives, of which there are no more than tokens. -/
def declarations : Nat → Declarations → TokenReader Declarations
  | 0, _ => refuse .malformed
  | fuel + 1, known => do
    match ← peek with
    | some token =>
      if token.isDirective then
        advance
        declarations fuel (← known.declare token)
      else return known
    | none => return known

def explicitStart : TokenReader Declarations := do
  let known ← declarations (← get).lexer.bound {}
  expect .documentStart
  return known

def documentNode (explicit : Bool) : TokenReader Nat := do
  let known ← if explicit then explicitStart else pure {}
  modify fun reading => { reading with handles := known.allHandles }
  match explicit, ← peek with
  | true, none => NodeReader.empty
  | true, some token =>
    if token.isDocumentLevel then NodeReader.empty else NodeReader.read Host.readDepth true false
  | false, _ => NodeReader.read Host.readDepth true false

def endMarks : TokenReader Unit := do
  let _ ← many fun _ => do
    if ← accept .documentEnd then return some () else return none

/-- Behind a document only its end marks may stand. The beginning of another one is read
before it is refused. -/
def onlyDocument : TokenReader Unit := do
  endMarks
  match ← peek with
  | none => return ()
  | some _ =>
    let _ ← explicitStart
    refuse .malformed

def document? : TokenReader (Option Nat) := do
  match ← peek with
  | none => return none
  | some token =>
    let root ← documentNode (token.isDirective || token == .documentStart)
    onlyDocument
    return some root

def NodeGraph.ofText? (text : List Char) : Except Failure (Option NodeGraph) := do
  let (root, reading) ← document?.run { lexer := ← Lexer.ofText text }
  return root.map fun root => ⟨reading.nodes, root⟩

end HarvardBench.Markup
