import HarvardBench.Markup.Lexer
import HarvardBench.Markup.Node
import HarvardBench.Table

/-! Reading tokens one after the other, while the nodes of a document are collected. -/

set_option autoImplicit false

namespace HarvardBench.Markup

structure Reading where
  lexer : Lexer
  nodes : Nodes := #[]
  anchors : Table (List Char) Nat := []
  handles : Table (List Char) (List Char) := []

abbrev TokenReader (α : Type) := StateT Reading (Except Failure) α

namespace TokenReader

def refuse {α : Type} (failure : Failure) : TokenReader α := fun _ => .error failure

def peek : TokenReader (Option Token) := fun ⟨lexer, nodes, anchors, handles⟩ => do
  let lexer ← lexer.ready
  return (lexer.next?, ⟨lexer, nodes, anchors, handles⟩)

def advance : TokenReader Unit := fun ⟨lexer, nodes, anchors, handles⟩ =>
  .ok ((), ⟨lexer.take, nodes, anchors, handles⟩)

def nextIs (expected : List Token) : TokenReader Bool := do
  match ← peek with
  | some token => return token ∈ expected
  | none => return false

def accept (token : Token) : TokenReader Bool := do
  if ← nextIs [token] then
    advance
    return true
  else return false

def expect (token : Token) : TokenReader Unit := do
  if ← accept token then return () else refuse .malformed

/-- Read parts up to the first that is missing. There are no more parts than tokens. A part
is told whether it is the first. -/
def parts {α : Type} (part : Bool → TokenReader (Option α)) : Nat → Bool → TokenReader (List α)
  | 0, _ => refuse .malformed
  | fuel + 1, first => do
    match ← part first with
    | some value => return value :: (← parts part fuel false)
    | none => return []

/-- Each character brings four tokens at most: its own, two that open a key before it and
one that closes its block. -/
def many {α : Type} (part : Bool → TokenReader (Option α)) : TokenReader (List α) := do
  parts part (4 * (← get).lexer.bound) true

/-! ### Nodes and their names -/

def add (node : Node) : TokenReader Nat := fun ⟨lexer, nodes, anchors, handles⟩ =>
  .ok (nodes.size, ⟨lexer, nodes.push node, anchors, handles⟩)

def setContent (place : Nat) (content : Content) : TokenReader Unit :=
  fun ⟨lexer, nodes, anchors, handles⟩ =>
    .ok ((), ⟨lexer, nodes.setContent place content, anchors, handles⟩)

def named (name : List Char) : TokenReader Nat := do
  match (← get).anchors.get? name with
  | some place => return place
  | none => refuse .malformed

def checkAnchor (anchor : Option (List Char)) : TokenReader Unit := do
  match anchor with
  | none => return ()
  | some name => if (← get).anchors.keys.contains name then refuse .malformed else return ()

def bindAnchor (anchor : Option (List Char)) (place : Nat) : TokenReader Unit := do
  match anchor with
  | none => return ()
  | some name => modify fun reading => { reading with anchors := reading.anchors.put name place }

/-! ### Properties -/

structure Properties where
  anchor : Option (List Char) := none
  tag : Option (List Char) := none

def anchor? : TokenReader (Option (List Char)) := do
  match ← peek with
  | some (.anchor name) =>
    advance
    return some name
  | _ => return none

def tag? : TokenReader (Option (Option (List Char) × List Char)) := do
  match ← peek with
  | some (.tag handle suffix) =>
    advance
    return some (handle, suffix)
  | _ => return none

def tagName (tag : Option (List Char) × List Char) : TokenReader (List Char) := do
  match tag with
  | (none, suffix) => return suffix
  | (some handle, suffix) =>
    match (← get).handles.get? handle with
    | some lead => return lead ++ suffix
    | none => refuse .malformed

def properties : TokenReader Properties := do
  let (anchor, tag) ← match ← anchor? with
    | some name => do pure (some name, ← tag?)
    | none => do
      match ← tag? with
      | some tag => do pure (← anchor?, some tag)
      | none => pure (none, none)
  match tag with
  | none => return { anchor }
  | some tag => return { anchor, tag := some (← tagName tag) }

end TokenReader

end HarvardBench.Markup
