import HarvardBench.Markup.Property
import HarvardBench.Markup.Scalar.Block
import HarvardBench.Markup.Scalar.Plain
import HarvardBench.Markup.Scalar.Quotation

/-! Documents as tokens.

Outside brackets, indentation opens and closes blocks. A scalar or a collection may
turn out to be a key when a colon follows on its line; its place is remembered, and the
tokens that open a key are put there afterwards. Tokens are read on demand, and no further
than it takes to know whether the next one begins a key.
-/

set_option autoImplicit false

namespace HarvardBench.Markup

/-- A place where a key may have begun. -/
structure Candidate where
  tokens : Nat
  /-- Whether the block is lost if it is no key. -/
  required : Bool
  index : Nat
  line : Nat
  column : Nat
  deriving DecidableEq, Repr

structure Lexer where
  source : Source
  bound : Nat
  tokens : Array Token := #[]
  taken : Nat := 0
  finished : Bool := false
  indents : List Int := []
  /-- For each open bracket, and for what is outside them, the innermost first, the
  place where a key may have begun. -/
  candidates : List (Option Candidate) := [none]
  keyAllowed : Bool := true
  deriving Repr

namespace Lexer

def inFlow (lexer : Lexer) : Bool := 1 < lexer.candidates.length

def indent (lexer : Lexer) : Int := lexer.indents.headD (-1)

def emit (lexer : Lexer) (token : Token) : Lexer := { lexer with tokens := lexer.tokens.push token }

def allowKey (lexer : Lexer) (allowed : Bool) : Lexer := { lexer with keyAllowed := allowed }

def moveTo (lexer : Lexer) (source : Source) : Lexer := { lexer with source }

def advance (lexer : Lexer) : Lexer := lexer.moveTo lexer.source.next

/-- A key has to fit on a line and in 1024 characters. -/
def isStale (source : Source) (candidate : Candidate) : Bool :=
  candidate.line != source.line || candidate.index + 1024 < source.index

def discard (found : Option Candidate) : Except Failure (Option Candidate) :=
  match found with
  | some candidate => if candidate.required then .error .malformed else .ok none
  | none => .ok none

def dropStale (lexer : Lexer) : Except Failure Lexer := do
  let candidates ← lexer.candidates.mapM fun found =>
    match found with
    | some candidate => if isStale lexer.source candidate then discard found else pure found
    | none => pure none
  return { lexer with candidates }

def dropCandidate (lexer : Lexer) : Except Failure Lexer :=
  match lexer.candidates with
  | found :: outer => (discard found).map fun kept => { lexer with candidates := kept :: outer }
  | [] => .ok lexer

def noteCandidate (lexer : Lexer) : Except Failure Lexer :=
  if !lexer.keyAllowed then .ok lexer
  else
    match lexer.candidates with
    | [] => .ok lexer
    | found :: outer => (discard found).map fun _ =>
      let source := lexer.source
      let required := !lexer.inFlow && lexer.indent == (source.column : Int)
      let candidate : Candidate :=
        ⟨lexer.tokens.size, required, source.index, source.line, source.column⟩
      { lexer with candidates := some candidate :: outer }

def unwindFrom (lexer : Lexer) (column : Int) : List Int → Lexer
  | [] => { lexer with indents := [] }
  | indent :: outer =>
    if column < indent then unwindFrom (lexer.emit .blockEnd) column outer
    else { lexer with indents := indent :: outer }

def unwind (lexer : Lexer) (column : Int) : Lexer :=
  if lexer.inFlow then lexer else lexer.unwindFrom column lexer.indents

def openBlock (lexer : Lexer) (column : Nat) (start : Token) : Lexer :=
  if lexer.indent < column then
    { lexer with indents := (column : Int) :: lexer.indents }.emit start
  else lexer

/-- Skip blanks, comments and line breaks. A new line outside brackets may begin a key. -/
def skipBlanks (inFlow : Bool) : Nat → Source × Bool → Source × Bool
  | 0, state => state
  | fuel + 1, (source, allowed) =>
    let source := source.skipSpaces.skipComment
    match source.lineBreak with
    | ([], _) => (source, allowed)
    | (_, source) => skipBlanks inFlow fuel (source, allowed || !inFlow)

def toNextToken (lexer : Lexer) : Lexer :=
  let source := lexer.source
  let source :=
    if source.index = 0 && source.head == some byteOrderMark then source.next else source
  let (source, keyAllowed) :=
    skipBlanks lexer.inFlow (source.left + 1) (source, lexer.keyAllowed)
  { lexer with source, keyAllowed }

def isDocumentMark (source : Source) : Bool := source.column = 0 && source.atSeparator

def closeAll (lexer : Lexer) : Except Failure Lexer := do
  let closed ← (lexer.unwind (-1)).dropCandidate
  return closed.allowKey false

def documentMark (lexer : Lexer) (token : Token) : Except Failure Lexer := do
  let closed ← lexer.closeAll
  return (closed.moveTo (closed.source.skip 3)).emit token

def directiveLine (lexer : Lexer) : Except Failure Lexer := do
  let closed ← lexer.closeAll
  let (token, source) ← directive closed.source
  return (closed.moveTo source).emit token

def flowStart (lexer : Lexer) (token : Token) : Except Failure Lexer := do
  let noted ← lexer.noteCandidate
  return ({ noted with candidates := none :: noted.candidates, keyAllowed := true }.advance).emit token

def flowEnd (lexer : Lexer) (token : Token) : Except Failure Lexer := do
  let dropped ← lexer.dropCandidate
  match dropped.candidates with
  | _ :: outer :: rest =>
    return ({ dropped with candidates := outer :: rest, keyAllowed := false }.advance).emit token
  | _ => throw .malformed

def flowSeparator (lexer : Lexer) : Except Failure Lexer := do
  let dropped ← (lexer.allowKey true).dropCandidate
  return dropped.advance.emit .flowEntry

def blockDash (lexer : Lexer) : Except Failure Lexer := do
  if !lexer.inFlow && !lexer.keyAllowed then throw .malformed
  let opened :=
    if lexer.inFlow then lexer else lexer.openBlock lexer.source.column .blockSequenceStart
  let dropped ← (opened.allowKey true).dropCandidate
  return dropped.advance.emit .blockEntry

def keyMark (lexer : Lexer) : Except Failure Lexer := do
  if !lexer.inFlow && !lexer.keyAllowed then throw .malformed
  let opened :=
    if lexer.inFlow then lexer else lexer.openBlock lexer.source.column .blockMappingStart
  let dropped ← (opened.allowKey !lexer.inFlow).dropCandidate
  return dropped.advance.emit .key

def insertAt (lexer : Lexer) (position : Nat) (token : Token) : Lexer :=
  { lexer with tokens := lexer.tokens.insertIdxIfInBounds position token }

def confirm (lexer : Lexer) (candidate : Candidate) : Lexer :=
  let keyed := lexer.insertAt candidate.tokens .key
  if !lexer.inFlow && lexer.indent < candidate.column then
    { keyed with indents := (candidate.column : Int) :: lexer.indents }.insertAt candidate.tokens
      .blockMappingStart
  else keyed

def valueMark (lexer : Lexer) : Except Failure Lexer :=
  match lexer.candidates with
  | some candidate :: outer =>
    let confirmed := { lexer with candidates := none :: outer }.confirm candidate
    .ok ((confirmed.allowKey false).advance.emit .value)
  | _ => do
    if !lexer.inFlow && !lexer.keyAllowed then throw .malformed
    let opened :=
      if lexer.inFlow then lexer else lexer.openBlock lexer.source.column .blockMappingStart
    let dropped ← (opened.allowKey !lexer.inFlow).dropCandidate
    return dropped.advance.emit .value

def candidateToken (lexer : Lexer) (read : Source → Except Failure (Token × Source)) :
    Except Failure Lexer := do
  let noted ← lexer.noteCandidate
  let (token, source) ← read noted.source
  return ((noted.allowKey false).moveTo source).emit token

def blockScalar (lexer : Lexer) (folded : Bool) : Except Failure Lexer := do
  let dropped ← (lexer.allowKey true).dropCandidate
  let (text, source) ← Block.read folded dropped.indent dropped.source
  return (dropped.moveTo source).emit (.scalar (.ofChars text) false)

def plainScalar (lexer : Lexer) : Except Failure Lexer := do
  let noted ← lexer.noteCandidate
  let reading := Plain.read noted.inFlow (noted.indent + 1) noted.source
  return ((noted.allowKey reading.newLine).moveTo reading.source).emit (.scalar (.ofChars reading.text) true)

/-- Whether a plain scalar can begin with a character before another. -/
def beginsPlain (inFlow : Bool) (c : Char) (after : Option Char) : Bool :=
  !(endsWord (some c) || c ∈ "-?:,[]\x7b\x7d#&*!|>%@\x60".toList || c == Quotation.single ||
      c == Quotation.double) ||
    (!endsWord after && (c == '-' || (!inFlow && (c == '?' || c == ':'))))

def token (lexer : Lexer) (c : Char) : Except Failure Lexer :=
  let source := lexer.source
  let after := source.peek 1
  if c = '%' && source.column = 0 then lexer.directiveLine
  else if c = '-' && isDocumentMark source then lexer.documentMark .documentStart
  else if c = '.' && isDocumentMark source then lexer.documentMark .documentEnd
  else if c = '[' then lexer.flowStart .flowSequenceStart
  else if c = '\x7b' then lexer.flowStart .flowMappingStart
  else if c = ']' then lexer.flowEnd .flowSequenceEnd
  else if c = '\x7d' then lexer.flowEnd .flowMappingEnd
  else if c = ',' then lexer.flowSeparator
  else if c = '-' && endsWord after then lexer.blockDash
  else if c = '?' && (lexer.inFlow || endsWord after) then lexer.keyMark
  else if c = ':' && (lexer.inFlow || endsWord after) then lexer.valueMark
  else if c = '*' then
    lexer.candidateToken fun source => (anchorName source).map fun found => (.alias found.1, found.2)
  else if c = '&' then
    lexer.candidateToken fun source => (anchorName source).map fun found => (.anchor found.1, found.2)
  else if c = '!' then lexer.candidateToken tag
  else if c = '|' && !lexer.inFlow then lexer.blockScalar false
  else if c = '>' && !lexer.inFlow then lexer.blockScalar true
  else if c = Quotation.single || c = Quotation.double then
    lexer.candidateToken fun source =>
      (Quotation.read c source).map fun found => (.scalar found.1 false, found.2)
  else if beginsPlain lexer.inFlow c after then lexer.plainScalar
  else .error .malformed

def finish (lexer : Lexer) : Except Failure Lexer := do
  let closed ← (lexer.unwind (-1)).dropCandidate
  return { closed with candidates := [], finished := true }

def advanceToken (lexer : Lexer) : Except Failure Lexer := do
  let fresh ← lexer.toNextToken.dropStale
  let ready := fresh.unwind fresh.source.column
  match ready.source.head with
  | none => ready.finish
  | some c => ready.token c

def mayBeginKey (lexer : Lexer) : Bool :=
  lexer.candidates.any fun found => (found.map Candidate.tokens) == some lexer.taken

/-- Read tokens until the next one is known. Each takes a character at least. -/
def fill : Nat → Lexer → Except Failure Lexer
  | 0, _ => .error .malformed
  | fuel + 1, lexer =>
    if lexer.finished then .ok lexer
    else if lexer.tokens.size ≤ lexer.taken then do fill fuel (← lexer.advanceToken)
    else do
      let fresh ← lexer.dropStale
      if fresh.mayBeginKey then fill fuel (← fresh.advanceToken) else return fresh

def ready (lexer : Lexer) : Except Failure Lexer := fill lexer.bound lexer

def next? (lexer : Lexer) : Option Token := lexer.tokens[lexer.taken]?

def take (lexer : Lexer) : Lexer := { lexer with taken := lexer.taken + 1 }

def ofText (text : List Char) : Except Failure Lexer :=
  if text.all isAdmitted then .ok { source := .ofText text, bound := text.length + 2 }
  else .error .malformed

end Lexer

end HarvardBench.Markup
