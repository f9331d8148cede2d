import HarvardBench.Markup.Node

/-! Merging mappings into mappings.

The value of a merge key is a mapping or a sequence of mappings. Their entries come before
those of the mapping that merges them, and in a sequence the first mappings win, so the last
come first. A mapping that is merged takes in first what it merges itself.

Merging changes the nodes: the merge keys go away, the entries are copied, and the key of a
default value becomes an ordinary text, also where other collections refer to it.
-/

set_option autoImplicit false

namespace HarvardBench.Markup

abbrev NodeChange (α : Type) := StateT Nodes (Except Failure) α

namespace NodeChange

def refuse {α : Type} (failure : Failure) : NodeChange α := fun _ => .error failure

def takeMerge (place : Nat) : NodeChange (Option Nat) := do
  let nodes ← get
  let entries := nodes.entries place
  match entries.findIdx? fun entry => nodes.tag entry.1 = .merge with
  | none => return none
  | some index =>
    set (nodes.setContent place (.mapping (entries.eraseIdx index)))
    return (entries[index]?).map Prod.snd

def prepend (place : Nat) (merged : List (Nat × Nat)) : NodeChange Unit := do
  let nodes ← get
  let own := nodes.entries place
  let keys := (own.map Prod.fst).filter fun key => nodes.tag key = .default
  let nodes := keys.foldl (fun nodes key => nodes.setTag key .str) nodes
  set (nodes.setContent place (.mapping (merged ++ own)))

def entriesAfter (change : Nat → NodeChange Unit) (place : Nat) :
    NodeChange (List (Nat × Nat)) := do
  if (← get).isMapping place then
    change place
    return (← get).entries place
  else refuse .malformed

/-- Take into a mapping what its merge keys name, behind entries that are merged already. Each
step removes a merge key from the document. So many mappings can be merged into each other. -/
def mergeFrom : Nat → Nat → List (Nat × Nat) → Nat → NodeChange Unit
  | 0, _, _, _ => refuse .nesting
  | _ + 1, 0, merged, place => prepend place merged
  | depth + 1, fuel + 1, merged, place => do
    match ← takeMerge place with
    | none => prepend place merged
    | some value =>
      let found ← match (← get).content value with
        | .scalar _ => refuse .malformed
        | .mapping _ => entriesAfter (mergeFrom depth fuel []) value
        | .sequence items => do
          let all ← items.mapM (entriesAfter (mergeFrom depth fuel []))
          pure all.reverse.flatten
      mergeFrom (depth + 1) fuel (merged ++ found) place

end NodeChange

def Nodes.mergeKeys (nodes : Nodes) : Nat :=
  let count (place : Nat) :=
    ((nodes.entries place).filter fun entry => nodes.tag entry.1 = .merge).length
  (List.range nodes.size).foldl (fun total place => total + count place) 0

end HarvardBench.Markup
