import HarvardBench.Markup.Tag
import HarvardBench.Markup.Failure
import HarvardBench.Text.CodePoint

/-! Documents as graphs of tagged nodes.

A node is known by its place in a table. An alias stands for the place of the node that
it names, so that nodes can be shared and can lie inside themselves.
-/

set_option autoImplicit false

namespace HarvardBench.Markup

inductive Content where
  | scalar (text : RawText)
  | sequence (items : List Nat)
  | mapping (entries : List (Nat × Nat))
  deriving Inhabited

structure Node where
  tag : Tag
  content : Content

instance : Inhabited Node := ⟨⟨.null, .scalar []⟩⟩

abbrev Nodes := Array Node

namespace Nodes

def node (nodes : Nodes) (place : Nat) : Node := nodes.getD place default

def tag (nodes : Nodes) (place : Nat) : Tag := (nodes.node place).tag

def content (nodes : Nodes) (place : Nat) : Content := (nodes.node place).content

def entries (nodes : Nodes) (place : Nat) : List (Nat × Nat) :=
  match nodes.content place with
  | .mapping entries => entries
  | .scalar _ | .sequence _ => []

def isMapping (nodes : Nodes) (place : Nat) : Bool :=
  match nodes.content place with
  | .mapping _ => true
  | .scalar _ | .sequence _ => false

def setTag (nodes : Nodes) (place : Nat) (tag : Tag) : Nodes :=
  nodes.modify place fun node => { node with tag }

def setContent (nodes : Nodes) (place : Nat) (content : Content) : Nodes :=
  nodes.modify place fun node => { node with content }

/-- The text of a scalar, or that of the default value of a mapping, over so many mappings. -/
def text (nodes : Nodes) : Nat → Nat → Except Failure RawText
  | 0, _ => .error .nesting
  | depth + 1, place =>
    match nodes.content place with
    | .scalar text => .ok text
    | .sequence _ => .error .malformed
    | .mapping entries =>
      match entries.find? fun entry => nodes.tag entry.1 = .default with
      | some (_, value) => text nodes depth value
      | none => .error .malformed

end Nodes

structure NodeGraph where
  nodes : Nodes
  root : Nat

end HarvardBench.Markup
