import HarvardBench.Markup.Source
import HarvardBench.Markup.Token
import HarvardBench.Text.Numeral
import HarvardBench.Text.Utf8

/-! Directives, anchors, aliases and tags as they are written. -/

set_option autoImplicit false

namespace HarvardBench.Markup

def isIdentifierChar (c : Char) : Bool := c.isAlphanum || c == '-' || c == '_'

def isAddressChar (c : Char) : Bool :=
  c.isAlphanum || c ∈ "-;/?:@&=+$,_.!~*()[]".toList || c.toNat == 39

def identifier (source : Source) : Except Failure (List Char × Source) :=
  let (name, rest) := source.span isIdentifierChar
  if name.isEmpty then .error .malformed else .ok (name, rest)

def anchorName (source : Source) : Except Failure (List Char × Source) := do
  let (name, rest) ← identifier source.next
  if endsWord rest.head || isOneOf rest.head "?:,]\x7d%@\x60" then return (name, rest)
  else throw .malformed

/-- Read a handle: one exclamation mark, or an identifier between two of them or none. -/
def tagHandle (source : Source) : Except Failure (List Char × Source) :=
  if source.head != some '!' then .error .malformed
  else if source.peek 1 == some ' ' then .ok (['!'], source.next)
  else
    let (name, rest) := source.next.span isIdentifierChar
    if rest.head == some '!' then .ok ('!' :: name ++ ['!'], rest.next) else .error .malformed

def escapedBytes : Nat → List Byte → Source → Except Failure (List Byte × Source)
  | 0, bytes, source => .ok (bytes, source)
  | fuel + 1, bytes, source =>
    if source.head != some '%' then .ok (bytes, source)
    else
      let digits := source.next.rest.take 2
      if digits.length = 2 && digits.all Text.Radix.hexadecimal.isDigit then
        let byte := BitVec.ofNat 8 (Text.Radix.hexadecimal.value digits)
        escapedBytes fuel (bytes ++ [byte]) (source.skip 3)
      else .error .malformed

def addressFrom : Nat → List Char → Source → Except Failure (List Char × Source)
  | 0, read, source => .ok (read, source)
  | fuel + 1, read, source =>
    let (plain, source) := source.span isAddressChar
    let read := read ++ plain
    if source.head == some '%' then do
      let (bytes, source) ← escapedBytes (source.left + 1) [] source
      match Text.decodeUtf8? bytes with
      | some text => addressFrom fuel (read ++ text) source
      | none => throw .malformed
    else .ok (read, source)

def address (source : Source) : Except Failure (List Char × Source) := do
  let escapes := source.head == some '%'
  let (read, rest) ← addressFrom (source.left + 1) [] source
  if read.isEmpty && !escapes then throw .malformed else return (read, rest)

def hasHandle (source : Source) : Bool :=
  '!' ∈ source.next.rest.takeWhile fun c => !endsField (some c)

/-- Read a tag: written out between angle brackets, alone, or behind a handle. -/
def tag (source : Source) : Except Failure (Token × Source) := do
  let (token, rest) ←
    if source.peek 1 == some '<' then do
      let (text, rest) ← address (source.skip 2)
      if rest.head == some '>' then pure (Token.tag none text, rest.next) else throw .malformed
    else if endsWord (source.peek 1) then pure (Token.tag none ['!'], source.next)
    else do
      let (handle, rest) ← if hasHandle source then tagHandle source else pure (['!'], source.next)
      let (suffix, rest) ← address rest
      pure (Token.tag (some handle) suffix, rest)
  if endsField rest.head then return (token, rest) else throw .malformed

def versionNumber (source : Source) : Except Failure (Nat × Source) :=
  let (digits, rest) := source.span Char.isDigit
  if digits.isEmpty then .error .malformed
  else if Text.Radix.decimal.admits digits.length then .ok (Text.Radix.decimal.value digits, rest)
  else .error .number

def versionDirective (source : Source) : Except Failure (Token × Source) := do
  let (major, rest) ← versionNumber source.skipSpaces
  if rest.head != some '.' then throw .malformed
  let (_, rest) ← versionNumber rest.next
  if endsField rest.head then return (.version major, rest) else throw .malformed

def handleDirective (source : Source) : Except Failure (Token × Source) := do
  let (handle, rest) ← tagHandle source.skipSpaces
  if rest.head != some ' ' then throw .malformed
  let (lead, rest) ← address rest.skipSpaces
  if endsField rest.head then return (.tagHandle handle lead, rest) else throw .malformed

def directive (source : Source) : Except Failure (Token × Source) := do
  let (name, rest) ← identifier source.next
  if !endsField rest.head then throw .malformed
  let (token, rest) ←
    if name = "YAML".toList then versionDirective rest
    else if name = "TAG".toList then handleDirective rest
    else pure (Token.reservedDirective, rest.skipToLineEnd)
  return (token, ← rest.finishLine)

end HarvardBench.Markup
