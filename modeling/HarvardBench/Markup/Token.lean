import HarvardBench.Text.CodePoint

/-! The tokens of a document. -/

set_option autoImplicit false

namespace HarvardBench.Markup

inductive Token where
  | version (major : Nat)
  | tagHandle (handle lead : List Char)
  | reservedDirective
  | documentStart
  | documentEnd
  | blockSequenceStart
  | blockMappingStart
  | blockEnd
  | flowSequenceStart
  | flowSequenceEnd
  | flowMappingStart
  | flowMappingEnd
  | blockEntry
  | flowEntry
  | key
  | value
  | alias (name : List Char)
  | anchor (name : List Char)
  | tag (handle : Option (List Char)) (suffix : List Char)
  | scalar (text : RawText) (plain : Bool)
  deriving DecidableEq, Repr

def Token.isDocumentLevel : Token → Bool
  | version _ | tagHandle .. | reservedDirective | documentStart | documentEnd => true
  | _ => false

def Token.isDirective : Token → Bool
  | version _ | tagHandle .. | reservedDirective => true
  | _ => false

end HarvardBench.Markup
