import HarvardBench.Markup.Source
import HarvardBench.Text.CodePoint
import HarvardBench.Text.Numeral

/-! Scalars in quotes.

Between single quotes only the quote itself is written in a special way, twice.
Between double quotes a backslash begins an escape. A single break reads as a space.
-/

set_option autoImplicit false

namespace HarvardBench.Markup.Quotation

def single : Char := Char.ofNat 39

def double : Char := Char.ofNat 34

def escaped? (c : Char) : Option Char :=
  match c with
  | '0' => some (Char.ofNat 0)
  | 'a' => some (Char.ofNat 7)
  | 'b' => some (Char.ofNat 8)
  | 't' | '\t' => some '\t'
  | 'n' => some '\n'
  | 'v' => some (Char.ofNat 11)
  | 'f' => some (Char.ofNat 12)
  | 'r' => some '\r'
  | 'e' => some (Char.ofNat 27)
  | ' ' | '\\' | '/' => some c
  | 'N' => some (Char.ofNat 0x85)
  | '_' => some (Char.ofNat 0xA0)
  | 'L' => some (Char.ofNat 0x2028)
  | 'P' => some (Char.ofNat 0x2029)
  | _ => if c = double then some c else none

def escapeWidth? (c : Char) : Option Nat :=
  match c with
  | 'x' => some 2
  | 'u' => some 4
  | 'U' => some 8
  | _ => none

def codePoint (number : Nat) : Except Failure CodePoint :=
  match CodePoint.ofNat? number with
  | some point => .ok point
  | none => .error (.character (1 <<< 31 ≤ number))

def numbered (width : Nat) (source : Source) : Except Failure (CodePoint × Source) :=
  let digits := source.rest.take width
  if digits.length = width && digits.all Text.Radix.hexadecimal.isDigit then
    (codePoint (Text.Radix.hexadecimal.value digits)).map fun point => (point, source.skip width)
  else .error .malformed

def breaks : Nat → List Char → Source → Except Failure (List Char × Source)
  | 0, _, _ => .error .malformed
  | fuel + 1, read, source =>
    if source.atSeparator then .error .malformed
    else
      let source := (source.span isGap).2
      match source.lineBreak with
      | ([], _) => .ok (read, source)
      | (newline, source) => breaks fuel (read ++ newline) source

def escape (source : Source) : Except Failure (RawText × Source) :=
  match source.rest with
  | [] => .error .malformed
  | c :: _ =>
    match escaped? c, escapeWidth? c with
    | some shown, _ => .ok ([.char shown], source.next)
    | none, some width => (numbered width source.next).map fun found => ([found.1], found.2)
    | none, none =>
      if isBreak c then
        let source := source.lineBreak.2
        (breaks (source.left + 1) [] source).map fun found => (.ofChars found.1, found.2)
      else .error .malformed

def isOrdinary (c : Char) : Bool :=
  !(c == single || c == double || c == '\\' || isGap c || isBreak c)

/-- Read up to a gap or to the quote that may end the scalar. What is read is kept in reverse. -/
def solid (quote : Char) : Nat → RawText → Source → Except Failure (RawText × Source)
  | 0, _, _ => .error .malformed
  | fuel + 1, read, source =>
    let (plain, source) := source.span isOrdinary
    let read := read.pushChars plain
    match source.rest with
    | [] => .ok (read, source)
    | c :: rest =>
      if quote = single && c = single && rest.head? == some single then
        solid quote fuel (.char c :: read) (source.skip 2)
      else if (quote = double && c = single) || (quote = single && (c = double || c = '\\')) then
        solid quote fuel (.char c :: read) source.next
      else if quote = double && c = '\\' then do
        let (found, source) ← escape source.next
        solid quote fuel (found.reverse ++ read) source
      else .ok (read, source)

def gap (source : Source) : Except Failure (List Char × Source) :=
  let (blanks, source) := source.span isGap
  match source.rest with
  | [] => .error .malformed
  | c :: _ =>
    if isBreak c then do
      let (first, source) := source.lineBreak
      let (more, source) ← breaks (source.left + 1) [] source
      let folded := if first ≠ ['\n'] then first else if more.isEmpty then [' '] else []
      return (folded ++ more, source)
    else .ok (blanks, source)

def readFrom (quote : Char) : Nat → RawText → Source → Except Failure (RawText × Source)
  | 0, _, _ => .error .malformed
  | fuel + 1, read, source => do
    let (found, source) ← solid quote (source.left + 1) read source
    if source.head == some quote then return (found.reverse, source.next)
    let (between, source) ← gap source
    readFrom quote fuel (found.pushChars between) source

def read (quote : Char) (source : Source) : Except Failure (RawText × Source) :=
  readFrom quote (source.left + 1) [] source.next

end HarvardBench.Markup.Quotation
