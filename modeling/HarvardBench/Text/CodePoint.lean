/-! Code points, and text that is made of them.

The surrogates are code points without a character. A document can name them by
number, and then they stand in its text like characters.
-/

set_option autoImplicit false

namespace HarvardBench

inductive CodePoint where
  | char (c : Char)
  | surrogate (index : Fin 2048)
  deriving DecidableEq, Repr

namespace CodePoint

def firstSurrogate : Nat := 0xD800

def toNat : CodePoint → Nat
  | char c => c.toNat
  | surrogate index => firstSurrogate + index

def ofNat? (n : Nat) : Option CodePoint :=
  if n.isValidChar then some (char (Char.ofNat n))
  else if n < 0x110000 then some (surrogate (Fin.ofNat 2048 (n - firstSurrogate)))
  else none

/-- The character at this place of a text; a surrogate is seen as the replacement character. -/
def shown : CodePoint → Char
  | char c => c
  | surrogate _ => Char.ofNat 0xFFFD

end CodePoint

abbrev RawText := List CodePoint

namespace RawText

def ofChars (text : List Char) : RawText := text.map .char

def ofString (text : String) : RawText := ofChars text.toList

theorem ofChars_inj {first second : List Char} : ofChars first = ofChars second ↔ first = second :=
  List.map_inj_right fun _ _ same => CodePoint.char.inj same

theorem ofString_inj {first second : String} : ofString first = ofString second ↔ first = second := by
  simp [ofString, ofChars_inj, String.toList_inj]

/-- The characters of a text. Whatever has a written form keeps or loses it with the text,
since no such form has the replacement character. -/
def chars (text : RawText) : List Char := text.map CodePoint.shown

def pushChars (read : RawText) (text : List Char) : RawText :=
  text.foldl (fun read c => .char c :: read) read

def mapRunsFrom (f : List Char → List Char) (read : List Char) : RawText → RawText
  | [] => ofChars (f read.reverse)
  | .char c :: rest => mapRunsFrom f (c :: read) rest
  | .surrogate index :: rest =>
    ofChars (f read.reverse) ++ .surrogate index :: mapRunsFrom f [] rest

/-- Apply a function to the runs of characters between surrogates. -/
def mapRuns (f : List Char → List Char) (text : RawText) : RawText := mapRunsFrom f [] text

@[simp] theorem chars_ofChars (text : List Char) : chars (ofChars text) = text := by
  simp [chars, ofChars, Function.comp_def, CodePoint.shown]

end RawText

end HarvardBench
