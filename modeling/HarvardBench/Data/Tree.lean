import HarvardBench.Data.Atom
import HarvardBench.Host

/-! Trees of plain data, with collections that are shared.

A tree may name a collection of a store instead of holding it. Two links to one place
are one and the same collection, and a collection may hold a link to itself or to what
is around it. In print such a link shows only that the collection occurs again, and what
lies too deep inside collections is refused.
-/

set_option autoImplicit false

namespace HarvardBench

inductive Tree where
  | atom (value : Atom)
  | list (items : List Tree)
  | pair (first second : Tree)
  | set (members : List Atom)
  | map (entries : List (Atom × Tree))
  | link (place : Nat)
  deriving Inhabited

abbrev Store := Array Tree

/-- A tree together with the collections that its links name. -/
structure Data where
  store : Store
  root : Tree

namespace Store

def collection (store : Store) (place : Nat) : Tree := store.getD place (.list [])

/-- What a tree is at its head, where a link is followed. -/
def resolve (store : Store) : Tree → Tree
  | .link place => store.collection place
  | tree => tree

end Store

namespace Tree

def kindName : Tree → String
  | atom value => value.kindName
  | list _ | link _ => "list"
  | pair .. => "tuple"
  | set _ => "set"
  | map _ => "dict"

def isTruthy : Tree → Bool
  | atom value => value.isTruthy
  | list items => !items.isEmpty
  | pair .. | link _ => true
  | set members => !members.isEmpty
  | map entries => !entries.isEmpty

def entry? (entries : List (Atom × Tree)) (key : String) : Option Tree :=
  match entries with
  | [] => none
  | (.text name, value) :: rest => if name = .ofString key then some value else entry? rest key
  | _ :: rest => entry? rest key

def putEntry (key : Atom) (value : Tree) : List (Atom × Tree) → List (Atom × Tree)
  | [] => [(key, value)]
  | (known, old) :: rest =>
    if known.sameKey key then (known, value) :: rest else (known, old) :: putEntry key value rest

end Tree

/-! ### Printed form -/

inductive PrintFailure where
  | numeral
  | nesting
  deriving DecidableEq, Repr

namespace Atom

def literal (value : Atom) : Except PrintFailure (List Char) :=
  match value.literal? with
  | some written => .ok written
  | none => .error .numeral

end Atom

namespace Store

def listed (items : List (List Char)) : List Char := '[' :: Atom.joined items ++ [']']

def braced (items : List (List Char)) : List Char := '\x7b' :: Atom.joined items ++ ['\x7d']

def again : Tree → List Char
  | .map _ => braced ["...".toList]
  | _ => listed ["...".toList]

mutual

/-- A tree as it stands inside others, at the end of a path of links. So many trees can lie
inside each other from here on. -/
def literal (store : Store) (depth : Nat) (path : List Nat) (tree : Tree) :
    Except PrintFailure (List Char) :=
  match depth with
  | 0 => .error .nesting
  | depth + 1 =>
    match tree with
    | .link place =>
      let target := store.collection place
      if place ∈ path then .ok (again target) else shape store depth (place :: path) target
    | tree => shape store depth path tree
termination_by (depth, 0)

def shape (store : Store) (depth : Nat) (path : List Nat) (tree : Tree) :
    Except PrintFailure (List Char) :=
  match tree with
  | .atom value => value.literal
  | .list items => (literals store depth path items).map listed
  | .pair first second => do
    let first ← literal store depth path first
    let second ← literal store depth path second
    return '(' :: Atom.joined [first, second] ++ [')']
  | .set [] => .ok "set()".toList
  | .set members => (members.mapM Atom.literal).map braced
  | .map entries => (entryLiterals store depth path entries).map braced
  | .link place => .ok (again (store.collection place))
termination_by (depth, sizeOf tree)

def literals (store : Store) (depth : Nat) (path : List Nat) (items : List Tree) :
    Except PrintFailure (List (List Char)) :=
  match items with
  | [] => .ok []
  | item :: rest => do
    let first ← literal store depth path item
    return first :: (← literals store depth path rest)
termination_by (depth, sizeOf items)

def entryLiterals (store : Store) (depth : Nat) (path : List Nat) (entries : List (Atom × Tree)) :
    Except PrintFailure (List (List Char)) :=
  match entries with
  | [] => .ok []
  | (key, value) :: rest => do
    let key ← key.literal
    let value ← literal store depth path value
    return (key ++ ':' :: ' ' :: value) :: (← entryLiterals store depth path rest)
termination_by (depth, sizeOf entries)

end

def shown [Host] (store : Store) : Tree → Except PrintFailure RawText
  | .atom value =>
    match value.shown? with
    | some text => .ok text
    | none => .error .numeral
  | tree => (store.literal Host.printDepth [] tree).map .ofChars

end Store

end HarvardBench
