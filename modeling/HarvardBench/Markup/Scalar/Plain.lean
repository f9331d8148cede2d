import HarvardBench.Markup.Source

/-! Scalars without quotes.

Such a scalar ends before a colon that ends a word, before a comment, and inside
brackets before a character that has a meaning there. It goes on over line breaks as
long as its lines are indented; a single break reads as a space.
-/

set_option autoImplicit false

namespace HarvardBench.Markup.Plain

/-- Whether a plain scalar cannot go on with this character before that one. -/
def stops (inFlow : Bool) (c : Char) (after : Option Char) : Bool :=
  endsWord (some c) ||
    (c == ':' && (endsWord after || (inFlow && isOneOf after ",[]\x7b\x7d"))) ||
    (inFlow && isOneOf (some c) ",?[]\x7b\x7d")

def chunk (inFlow : Bool) : List Char → List Char
  | [] => []
  | c :: rest => if stops inFlow c rest.head? then [] else c :: chunk inFlow rest

/-- Read the breaks and the indentation of the following lines. A separator of documents
ends the scalar. -/
def breaks : Nat → List Char → Source → Option (List Char) × Source
  | 0, read, source => (some read, source)
  | fuel + 1, read, source =>
    match source.rest with
    | [] => (some read, source)
    | c :: _ =>
      if c = ' ' then breaks fuel read source.next
      else if isBreak c then
        let (newline, source) := source.lineBreak
        if source.atSeparator then (none, source) else breaks fuel (read ++ newline) source
      else (some read, source)

/-- What a gap reads as. -/
structure Gap where
  text : List Char
  newLine : Bool
  source : Source

def gap (source : Source) : Gap :=
  let (blanks, source) := source.span (· == ' ')
  match source.lineBreak with
  | ([], _) => ⟨blanks, false, source⟩
  | (first, source) =>
    if source.atSeparator then ⟨[], true, source⟩
    else
      match breaks (source.left + 1) [] source with
      | (none, source) => ⟨[], true, source⟩
      | (some more, source) =>
        let folded := if first ≠ ['\n'] then first else if more.isEmpty then [' '] else []
        ⟨folded ++ more, true, source⟩

structure Reading where
  reversed : List Char
  /-- Whether the scalar ended at the beginning of a line. -/
  newLine : Bool
  source : Source

def readFrom (inFlow : Bool) (indent : Int) : Nat → Reading → List Char → Reading
  | 0, reading, _ => reading
  | fuel + 1, reading, before =>
    let found := if reading.source.head == some '#' then [] else chunk inFlow reading.source.rest
    if found.isEmpty then reading
    else
      let between := gap (reading.source.skip found.length)
      let reversed := found.reverseAux (before.reverseAux reading.reversed)
      let reading := ⟨reversed, between.newLine, between.source⟩
      if between.text.isEmpty || between.source.head == some '#' ||
          (!inFlow && between.source.column < indent) then reading
      else readFrom inFlow indent fuel reading between.text

def Reading.text (reading : Reading) : List Char := reading.reversed.reverse

def read (inFlow : Bool) (indent : Int) (source : Source) : Reading :=
  readFrom inFlow indent (source.left + 1) ⟨[], false, source⟩ []

end HarvardBench.Markup.Plain
