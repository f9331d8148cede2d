import HarvardBench.Memory.Rom

/-! Program images: words as bytes, the low byte first. -/

set_option autoImplicit false

namespace HarvardBench.Image

def encodeWord (word : Word) : List Byte := [word.setWidth 8, (word >>> 8).setWidth 8]

def encode (words : List Word) : List Byte := words.flatMap encodeWord

def joinBytes (low high : Byte) : Word := high ++ low

def words? : List Byte → Option (List Word)
  | [] => some []
  | [_] => none
  | low :: high :: rest => (words? rest).map (joinBytes low high :: ·)

def decode (bytes : List Byte) : Except ImageError (List Word) :=
  match words? bytes with
  | some words => .ok words
  | none => .error (.oddLength bytes.length)

def ofRom (rom : Rom) : List Byte := encode rom.words.toList

theorem words?_encode (words : List Word) : words? (encode words) = some words := by
  induction words with
  | nil => rfl
  | cons word rest ih =>
    have joined : joinBytes (word.setWidth 8) ((word >>> 8).setWidth 8) = word := by
      unfold joinBytes
      ext i hi
      simp only [BitVec.getElem_append, BitVec.getElem_setWidth, BitVec.getLsbD_ushiftRight]
      split
      · exact BitVec.getLsbD_eq_getElem hi
      · rw [show 8 + (i - 8) = i by omega]
        exact BitVec.getLsbD_eq_getElem hi
    simp only [encode, List.flatMap_cons, encodeWord, List.cons_append, List.nil_append, words?]
    simp only [encode] at ih
    rw [ih, joined]
    rfl

end HarvardBench.Image
