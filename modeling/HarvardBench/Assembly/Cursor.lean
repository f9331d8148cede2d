import HarvardBench.Assembly.Diagnostic
import HarvardBench.Isa.Register
import HarvardBench.Text.WordChar

/-! Reading operands from left to right.

The cursor is the part of the text that is still unread. A reader moves it
forward whether it succeeds or fails: what was recognised before a failure stays
read. Only spaces and tabs are skipped.
-/

set_option autoImplicit false

namespace HarvardBench.Assembly

abbrev Cursor := List Char

/-- A step over the unread text: a result or a failure, and what is unread afterwards. -/
def Reader (α : Type) : Type := Cursor → Except Failure α × Cursor

namespace Reader

variable {α β : Type}

def run (reader : Reader α) (cursor : Cursor) : Except Failure α × Cursor := reader cursor

def succeed (value : α) : Reader α := fun cursor => (.ok value, cursor)

def andThen (first : Reader α) (next : α → Reader β) : Reader β := fun cursor =>
  match first cursor with
  | (.ok value, rest) => next value rest
  | (.error failure, rest) => (.error failure, rest)

instance : Monad Reader where
  pure := succeed
  bind := andThen

def refuse (problem : Problem) : Reader α := fun cursor => (.error problem.failure, cursor)

@[simp] theorem run_pure (value : α) (cursor : Cursor) :
    run (pure value) cursor = (.ok value, cursor) := rfl

theorem run_bind (first : Reader α) (next : α → Reader β) (cursor : Cursor) :
    run (first >>= next) cursor =
      match run first cursor with
      | (.ok value, rest) => run (next value) rest
      | (.error failure, rest) => (.error failure, rest) := rfl

end Reader

open Text

def isSpace (c : Char) : Bool := c == ' ' || c == '\t'

def skipSpaces (cursor : Cursor) : Cursor := cursor.dropWhile isSpace

def spaces : Reader Unit := fun cursor => (.ok (), skipSpaces cursor)

def atEnd : Reader Bool := fun cursor =>
  let rest := skipSpaces cursor
  (.ok rest.isEmpty, rest)

def word : Reader (List Char) := fun cursor =>
  (.ok (cursor.takeWhile isWordChar), cursor.dropWhile isWordChar)

def received (name : List Char) (cursor : Cursor) : String :=
  if name.isEmpty then Found.text cursor.head? else String.ofList name

def comma : Reader Unit := fun cursor =>
  match skipSpaces cursor with
  | ',' :: rest => (.ok (), skipSpaces rest)
  | rest => Reader.refuse (.comma rest.head?) rest

def endOfStatement : Reader Unit := fun cursor =>
  match skipSpaces cursor with
  | [] => (.ok (), [])
  | rest => Reader.refuse (.trailing rest.head?) rest

def register : Reader Register := fun cursor =>
  let start := skipSpaces cursor
  let name := start.takeWhile isWordChar
  let rest := start.dropWhile isWordChar
  if start.isEmpty then Reader.refuse .registerMissing rest
  else if name.isEmpty then Reader.refuse (.registerShape rest.head?) rest
  else
    match Register.ofName? (name.map Char.toLower) with
    | some found => (.ok found, rest)
    | none => Reader.refuse (.registerName (String.ofList name)) rest

def sigil : List Char → Reader Unit
  | [] => pure ()
  | expected :: more => fun cursor =>
    match cursor with
    | c :: rest =>
      if c = expected then sigil more rest else Reader.refuse (.sigil expected (some c)) cursor
    | [] => Reader.refuse (.sigil expected none) []

/-- A radix letter, or decimal if there is none. -/
def radix : Reader Radix := fun cursor =>
  match cursor with
  | [] => (.ok .decimal, [])
  | c :: rest =>
    match Radix.ofMarker? c with
    | some found => (.ok found, rest)
    | none => (.ok .decimal, cursor)

def digits (radix : Radix) : Reader Nat := fun cursor =>
  let numeral := cursor.takeWhile radix.isDigit
  let rest := cursor.dropWhile radix.isDigit
  if numeral.isEmpty then Reader.refuse (.digits rest.head?) rest
  else if radix.admits numeral.length then (.ok (radix.value numeral), rest)
  else (.error .numeralTooLong, rest)

def number (sign : List Char) : Reader Nat := do
  spaces
  sigil sign
  let base ← radix
  digits base

def programNumber : Reader Nat := number ['$', '$']

def dataNumber : Reader Nat := number ['$']

def immediate : Reader Nat := do
  let value ← number ['#']
  if value ≤ 255 then return value else Reader.refuse (.immediate value)

def carryClause : Reader Bool := do
  if ← atEnd then return false
  comma
  let name ← word
  if name.map Char.toLower = Flag.carry.name.toList then return true
  else fun cursor => Reader.refuse (.carryWord (received name cursor)) cursor

private theorem length_dropWhile_le {α : Type} (p : α → Bool) (l : List α) :
    (l.dropWhile p).length ≤ l.length := (List.dropWhile_sublist p).length_le

def flagsAfter (seen : Flags) (cursor : Cursor) : Except Failure Flags × Cursor :=
  let start := skipSpaces cursor
  let name := start.takeWhile isWordChar
  let rest := start.dropWhile isWordChar
  match Flag.ofName? (name.map Char.toLower) with
  | none => Reader.refuse (.flagName (received name rest)) rest
  | some flag =>
    if seen.get flag then Reader.refuse (.flagRepeated flag.name) rest
    else
      match _same : skipSpaces rest with
      | ',' :: more => flagsAfter (seen.insert flag) more
      | stop => (.ok (seen.insert flag), stop)
termination_by cursor.length
decreasing_by
  have shorter : (skipSpaces rest).length ≤ cursor.length :=
    Nat.le_trans (length_dropWhile_le _ _)
      (Nat.le_trans (length_dropWhile_le _ _) (length_dropWhile_le _ _))
  rw [_same] at shorter
  simp only [List.length_cons] at shorter
  omega

def flags : Reader Flags := flagsAfter {}

end HarvardBench.Assembly
