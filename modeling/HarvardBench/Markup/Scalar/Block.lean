import HarvardBench.Markup.Source

/-! Scalars of whole lines.

A literal scalar keeps its line breaks; a folded one reads a single break between two
lines that begin with no gap as a space. What follows the last line is kept, clipped
to one break or stripped.
-/

set_option autoImplicit false

namespace HarvardBench.Markup.Block

inductive Chomping where
  | strip | clip | keep
  deriving DecidableEq, Repr

structure Header where
  chomping : Chomping := .clip
  /-- The indentation beyond that of the surrounding block, if it is given. -/
  increment : Option Nat := none
  deriving DecidableEq, Repr

def chomping? (found : Option Char) : Option Chomping :=
  match found with
  | some '+' => some .keep
  | some '-' => some .strip
  | _ => none

def increment? (found : Option Char) : Option Nat :=
  found.bind fun c => if c.isDigit then some (c.toNat - 48) else none

def marks (source : Source) : Header × Source :=
  match chomping? source.head, increment? source.head with
  | some chomping, _ =>
    let source := source.next
    match increment? source.head with
    | some n => (⟨chomping, some n⟩, source.next)
    | none => (⟨chomping, none⟩, source)
  | none, some n =>
    let source := source.next
    match chomping? source.head with
    | some chomping => (⟨chomping, some n⟩, source.next)
    | none => (⟨.clip, some n⟩, source)
  | none, none => ({}, source)

/-- Read the line of a header. An increment of zero is refused. -/
def header (source : Source) : Except Failure (Header × Source) :=
  let (found, source) := marks source
  if found.increment = some 0 || !endsField source.head then .error .malformed
  else source.finishLine.map fun rest => (found, rest)

def indentTo (indent : Nat) : Nat → Source → Source
  | 0, source => source
  | fuel + 1, source =>
    if source.column < indent && source.head == some ' ' then indentTo indent fuel source.next
    else source

def breaks (indent : Nat) : Nat → List Char → Source → List Char × Source
  | 0, read, source => (read, source)
  | fuel + 1, read, source =>
    let source := indentTo indent indent source
    match source.lineBreak with
    | ([], _) => (read, source)
    | (newline, source) => breaks indent fuel (read ++ newline) source

def findIndent : Nat → List Char → Nat → Source → List Char × Nat × Source
  | 0, read, widest, source => (read, widest, source)
  | fuel + 1, read, widest, source =>
    if source.head == some ' ' then
      let source := source.next
      findIndent fuel read (max widest source.column) source
    else
      match source.lineBreak with
      | ([], _) => (read, widest, source)
      | (newline, source) => findIndent fuel (read ++ newline) widest source

structure Tail where
  newline : List Char
  empty : List Char

/-- Read lines with an indentation, given the empty lines before the next one. What is read is
kept in reverse. -/
def linesFrom (folded : Bool) (indent : Nat) :
    Nat → List Char → Tail → Source → List Char × Tail × Source
  | 0, read, tail, source => (read, tail, source)
  | fuel + 1, read, tail, source =>
    if source.column = indent && source.head.isSome then
      let solid := !isOneOf source.head " \t"
      let (line, source) := source.span fun c => !isBreak c
      let read := line.reverseAux (tail.empty.reverseAux read)
      let (newline, source) := source.lineBreak
      let (empty, source) := breaks indent (source.left + 1) [] source
      if source.column = indent && source.head.isSome then
        let joint :=
          if folded && newline = ['\n'] && solid && !isOneOf source.head " \t" then
            if empty.isEmpty then [' '] else []
          else newline
        linesFrom folded indent fuel (joint.reverseAux read) ⟨newline, empty⟩ source
      else (read, ⟨newline, empty⟩, source)
    else (read, tail, source)

def chomp (chomping : Chomping) (tail : Tail) : List Char :=
  match chomping with
  | .strip => []
  | .clip => tail.newline
  | .keep => tail.newline ++ tail.empty

def read (folded : Bool) (outer : Int) (source : Source) : Except Failure (List Char × Source) := do
  let (found, source) ← header source.next
  let least := (max 1 (outer + 1)).toNat
  let fuel := source.left + 1
  let (empty, indent, source) := match found.increment with
    | some n =>
      let indent := least + n - 1
      let (empty, source) := breaks indent fuel [] source
      (empty, indent, source)
    | none =>
      let (empty, widest, source) := findIndent fuel [] 0 source
      (empty, max least widest, source)
  let (text, tail, source) := linesFrom folded indent fuel [] ⟨[], empty⟩ source
  return (text.reverse ++ chomp found.chomping tail, source)

end HarvardBench.Markup.Block
