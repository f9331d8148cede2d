import HarvardBench.Data.Tree
import HarvardBench.Markup.Document
import HarvardBench.Markup.Merge
import HarvardBench.Markup.Scalar.Value

/-! Documents as plain data.

A node is turned into data once. A scalar is read at once; a collection gets a place in the
store, and its parts wait until all that is as deep in the document or less has been turned
into data. So of two faults the one that lies less deep counts, and then the first.
-/

set_option autoImplicit false

namespace HarvardBench.Markup

structure Building where
  nodes : Nodes
  /-- No fewer than the merge keys of the document. -/
  mergeKeys : Nat
  store : Store := #[]
  known : Array (Option Tree)
  /-- The collections that wait for their parts: their nodes and their places in the store. -/
  waiting : Array (Nat × Nat) := #[]

variable [Host]

abbrev Builder (α : Type) := StateT Building (Except Failure) α

def Tag.collection? : Tag → Option Tree
  | .seq | .omap | .pairs => some (.list [])
  | .map => some (.map [])
  | .set => some (.set [])
  | .null | .bool | .int | .float | .binary | .timestamp | .str | .merge | .default | .unknown =>
    none

namespace Builder

def refuse {α : Type} : Builder α := fun _ => .error .malformed

def atom (nodes : Nodes) (tag : Tag) (place : Nat) : Except Failure Atom :=
  let text := nodes.text Host.mergeDepth place
  let chars := text.map RawText.chars
  match tag with
  | .null => text.map fun _ => .null
  | .bool => do return .truth (← Scalar.truth (← chars))
  | .int => do return .number (← Scalar.integer (← chars))
  | .float => do Scalar.float place (← chars)
  | .binary => do return .bytes (← Scalar.bytes (← chars))
  | .timestamp => do
    let chars ← chars
    if nodes.isMapping place then throw .timeMapping else Scalar.time chars
  | .str => text.map .text
  | .omap | .pairs | .set | .seq | .map | .merge | .default | .unknown => .error .malformed

def reserve (node : Nat) (empty : Tree) : Builder Tree :=
  fun ⟨nodes, mergeKeys, store, known, waiting⟩ =>
    let place := store.size
    .ok (.link place, ⟨nodes, mergeKeys, store.push empty, known, waiting.push (node, place)⟩)

def remember (place : Nat) (tree : Tree) : Builder Unit :=
  fun ⟨nodes, mergeKeys, store, known, waiting⟩ =>
    .ok ((), ⟨nodes, mergeKeys, store, known.setIfInBounds place (some tree), waiting⟩)

def tree (place : Nat) : Builder Tree := do
  let building ← get
  match building.known.getD place none with
  | some tree => return tree
  | none =>
    let tag := building.nodes.tag place
    let tree ← match tag.collection? with
      | some empty => reserve place empty
      | none => do pure (Tree.atom (← atom building.nodes tag place))
    remember place tree
    return tree

def key (place : Nat) : Builder Atom := do
  match ← tree place with
  | .atom value => return value
  | _ => refuse

def entries (place : Nat) : Builder (List (Atom × Tree)) := do
  let ⟨nodes, mergeKeys, store, known, waiting⟩ ← get
  if !nodes.isMapping place then refuse
  let (_, nodes) ← NodeChange.mergeFrom Host.mergeDepth mergeKeys [] place nodes
  set (Building.mk nodes mergeKeys store known waiting)
  (nodes.entries place).foldlM (fun read (name, value) => do
    let name ← key name
    return Tree.putEntry name (← tree value) read) []

def pair (place : Nat) : Builder Tree := do
  match (← get).nodes.entries place with
  | [(first, second)] =>
    let first ← tree first
    return .pair first (← tree second)
  | _ => refuse

def items (place : Nat) : Builder (List Nat) := do
  match (← get).nodes.content place with
  | .sequence items => return items
  | .scalar _ | .mapping _ => refuse

def collection (place : Nat) : Builder Tree := do
  match (← get).nodes.tag place with
  | .omap | .pairs => return .list (← (← items place).mapM pair)
  | .map => return .map (← entries place)
  | .set => return .set ((← entries place).map Prod.fst)
  | _ => return .list (← (← items place).mapM tree)

def complete (node place : Nat) : Builder Unit := do
  let found ← collection node
  modify fun building => { building with store := building.store.setIfInBounds place found }

/-- Complete the waiting collections, level by level. There are no more levels than nodes. -/
def completeAll : Nat → Builder Unit
  | 0 => return ()
  | fuel + 1 => do
    let building ← get
    if building.waiting.isEmpty then return ()
    set { building with waiting := #[] }
    building.waiting.forM fun (node, place) => complete node place
    completeAll fuel

end Builder

namespace NodeGraph

def data (graph : NodeGraph) : Except Failure Data := do
  let nodes := graph.nodes
  let build : Builder Tree := do
    let root ← Builder.tree graph.root
    Builder.completeAll nodes.size
    return root
  let (root, building) ← build.run
    { nodes, mergeKeys := nodes.mergeKeys, known := Array.replicate nodes.size none }
  return ⟨building.store, root⟩

end NodeGraph

/-- The data of a document. A text without a document stands for nothing. -/
def document (text : List Char) : Except Failure Data := do
  match ← NodeGraph.ofText? text with
  | some graph => graph.data
  | none => return ⟨#[], .atom .null⟩

end HarvardBench.Markup
