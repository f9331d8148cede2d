import HarvardBench.Markup.Failure

/-! The unread part of a document, and its place in it. -/

set_option autoImplicit false

namespace HarvardBench.Markup

structure Source where
  rest : List Char
  left : Nat
  index : Nat := 0
  line : Nat := 0
  column : Nat := 0
  deriving DecidableEq, Repr

/-- The mark that may stand at the front of a text and takes no column. -/
def byteOrderMark : Char := Char.ofNat 0xFEFF

def isBreak (c : Char) : Bool :=
  c == '\n' || c == '\r' || c.toNat == 0x85 || c.toNat == 0x2028 || c.toNat == 0x2029

def isGap (c : Char) : Bool := c == ' ' || c == '\t'

def endsLine (found : Option Char) : Bool :=
  match found with
  | some c => isBreak c
  | none => true

def endsWord (found : Option Char) : Bool :=
  match found with
  | some c => isGap c || isBreak c
  | none => true

def endsField (found : Option Char) : Bool := found == some ' ' || endsLine found

def isOneOf (found : Option Char) (characters : String) : Bool :=
  match found with
  | some c => c ∈ characters.toList
  | none => false

def isAdmitted (c : Char) : Bool :=
  let n := c.toNat
  n == 9 || n == 10 || n == 13 || (0x20 ≤ n && n ≤ 0x7E) || n == 0x85 ||
    (0xA0 ≤ n && n ≤ 0xFFFD) || 0x10000 ≤ n

namespace Source

def ofText (text : List Char) : Source := { rest := text, left := text.length }

def peek (source : Source) (distance : Nat) : Option Char := source.rest[distance]?

def head (source : Source) : Option Char := source.rest.head?

/-- Step over one character. A carriage return before a line feed ends no line of its own. -/
def next (source : Source) : Source :=
  match source.rest with
  | [] => source
  | c :: rest =>
    if isBreak c && !(c == '\r' && rest.head? == some '\n') then
      ⟨rest, source.left - 1, source.index + 1, source.line + 1, 0⟩
    else
      ⟨rest, source.left - 1, source.index + 1, source.line,
        if c = byteOrderMark then source.column else source.column + 1⟩

def skip : Nat → Source → Source
  | 0, source => source
  | count + 1, source => skip count source.next

def span (source : Source) (member : Char → Bool) : List Char × Source :=
  let taken := source.rest.takeWhile member
  (taken, source.skip taken.length)

def skipSpaces (source : Source) : Source := (source.span (· == ' ')).2

def skipToLineEnd (source : Source) : Source := (source.span fun c => !isBreak c).2

/-- Read a line break. The usual ones all read as a line feed; without a break nothing is read. -/
def lineBreak (source : Source) : List Char × Source :=
  match source.rest with
  | '\r' :: '\n' :: _ => (['\n'], source.skip 2)
  | c :: _ =>
    if !isBreak c then ([], source)
    else if c.toNat = 0x2028 ∨ c.toNat = 0x2029 then ([c], source.next)
    else (['\n'], source.next)
  | [] => ([], source)

def atSeparator (source : Source) : Bool :=
  (source.rest.take 3 == ['-', '-', '-'] || source.rest.take 3 == ['.', '.', '.']) &&
    endsWord (source.peek 3)

def skipComment (source : Source) : Source :=
  if source.head == some '#' then source.skipToLineEnd else source

def finishLine (source : Source) : Except Failure Source :=
  let source := source.skipSpaces.skipComment
  if endsLine source.head then .ok source.lineBreak.2 else .error .malformed

end Source

end HarvardBench.Markup
