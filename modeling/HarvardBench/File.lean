import HarvardBench.Configuration.Document
import HarvardBench.Loading
import HarvardBench.Text.Utf8

/-! Programs and settings in files.

Text in a file is in UTF-8, and every line end in it reads as a line feed.
-/

set_option autoImplicit false

namespace HarvardBench

/-- What is found under a name: some bytes, or no file at all. -/
structure File where
  content : Option (List Byte)
  deriving DecidableEq, Repr

namespace File

inductive Failure where
  | missing
  | encoding
  | load (failure : LoadFailure)
  | document (failure : Settings.DocumentFailure)
  deriving DecidableEq, Repr

def bytes (file : File) : Except Failure (List Byte) :=
  match file.content with
  | some bytes => .ok bytes
  | none => .error .missing

def text (file : File) : Except Failure (List Char) := do
  match Text.decodeUtf8? (← file.bytes) with
  | some text => return Text.unifyLineEnds text
  | none => throw .encoding

def image (file : File) (rom : Rom) : Except Failure Rom := do
  (rom.loadImage (← file.bytes)).mapError .load

def assembly (file : File) (rom : Rom) : Except Failure (Symbols × Rom) := do
  let (program, loaded) ← (rom.loadText (← file.text)).mapError .load
  return (program.symbols, loaded)

def settings [Host] (file : File) : Except Failure Settings := do
  (Settings.ofText (← file.text)).mapError .document

end File

/-- The host of the program's own runs. No theorem rests on its numbers. -/
instance : Host where
  storage := 1 <<< 32
  readDepth := 491
  mergeDepth := 985
  printDepth := 990
  storage_le := by decide

end HarvardBench
