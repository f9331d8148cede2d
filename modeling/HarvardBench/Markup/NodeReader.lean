import HarvardBench.Markup.TokenReader

/-! Reading nodes. -/

set_option autoImplicit false

namespace HarvardBench.Markup

open TokenReader

namespace Tag

def ofScalar (name : Option (List Char)) (text : RawText) (plain : Bool) : Tag :=
  match name with
  | some name => if name = ['!'] then ofText text.chars else ofName name
  | none => if plain then ofText text.chars else str

def ofCollection (name : Option (List Char)) (usual : Tag) : Tag :=
  match name with
  | some name => if name = ['!'] then usual else ofName name
  | none => usual

end Tag

/-- A reader of nodes in some place. Blocks are allowed outside brackets, and a sequence
without indentation of its own where it is the key or the value of a block mapping. -/
abbrev NodeReader := (block indentless : Bool) → TokenReader Nat

namespace NodeReader

def scalar (properties : Properties) (text : RawText) (plain : Bool) : TokenReader Nat := do
  let place ← add ⟨.ofScalar properties.tag text plain, .scalar text⟩
  bindAnchor properties.anchor place
  return place

def empty : TokenReader Nat := scalar {} [] true

def sequence (properties : Properties) (items : TokenReader (List Nat)) : TokenReader Nat := do
  let place ← add ⟨.ofCollection properties.tag .seq, .sequence []⟩
  bindAnchor properties.anchor place
  setContent place (.sequence (← items))
  return place

def mapping (properties : Properties) (entries : TokenReader (List (Nat × Nat))) :
    TokenReader Nat := do
  let place ← add ⟨.ofCollection properties.tag .map, .mapping []⟩
  bindAnchor properties.anchor place
  setContent place (.mapping (← entries))
  return place

def optionalNode (node : TokenReader Nat) (stops : List Token) : TokenReader Nat := do
  if ← nextIs stops then empty else node

def optionalValue (node : TokenReader Nat) (stops : List Token) : TokenReader Nat := do
  if ← accept .value then optionalNode node stops else empty

def entry (node : TokenReader Nat) (stops : List Token) : TokenReader (Nat × Nat) := do
  let key ← optionalNode node (.value :: stops)
  return (key, ← optionalValue node stops)

def blockItem (node : NodeReader) (_ : Bool) : TokenReader (Option Nat) := do
  if ← accept .blockEntry then
    return some (← optionalNode (node true false) [.blockEntry, .blockEnd])
  else
    expect .blockEnd
    return none

def looseItem (node : NodeReader) (_ : Bool) : TokenReader (Option Nat) := do
  if ← accept .blockEntry then
    return some (← optionalNode (node true false) [.blockEntry, .key, .value, .blockEnd])
  else return none

def blockEntry (node : NodeReader) (_ : Bool) : TokenReader (Option (Nat × Nat)) := do
  if ← accept .key then
    return some (← entry (node true true) [.key, .value, .blockEnd])
  else
    expect .blockEnd
    return none

def flowPart {α : Type} (close : Token) (part : TokenReader α) (first : Bool) :
    TokenReader (Option α) := do
  if ← accept close then return none
  if !first then expect .flowEntry
  if ← accept close then return none
  return some (← part)

/-- An item of a bracketed sequence. A key among them begins a mapping of one entry. -/
def flowItem (node : NodeReader) : TokenReader Nat := do
  if ← nextIs [.key] then
    mapping {} do
      advance
      return [← entry (node false false) [.flowEntry, .flowSequenceEnd]]
  else node false false

def flowEntry (node : NodeReader) : TokenReader (Nat × Nat) := do
  if ← accept .key then entry (node false false) [.flowEntry, .flowMappingEnd]
  else do
    let key ← node false false
    return (key, ← empty)

def content (node : NodeReader) (properties : Properties) : NodeReader := fun block indentless => do
  let found ← peek
  checkAnchor properties.anchor
  match found with
  | some (.scalar text plain) =>
    advance
    scalar properties text plain
  | some .flowSequenceStart => sequence properties do
    advance
    many (flowPart .flowSequenceEnd (flowItem node))
  | some .flowMappingStart => mapping properties do
    advance
    many (flowPart .flowMappingEnd (flowEntry node))
  | found =>
    if indentless && found == some .blockEntry then sequence properties (many (looseItem node))
    else if block && found == some .blockSequenceStart then sequence properties do
      advance
      many (blockItem node)
    else if block && found == some .blockMappingStart then mapping properties do
      advance
      many (blockEntry node)
    else if properties.anchor.isSome || properties.tag.isSome then scalar properties [] true
    else refuse .malformed

/-- Read a node; an alias is the node that it names. So many nodes can lie inside each other. -/
def read : Nat → NodeReader
  | 0, _, _ => refuse .nesting
  | depth + 1, block, indentless => do
    match ← peek with
    | some (.alias name) =>
      advance
      named name
    | _ =>
      let properties ← properties
      content (read depth) properties block indentless

end NodeReader

end HarvardBench.Markup
