import HarvardBench.Assembly.Program
import HarvardBench.Memory.Image

/-! Bringing programs into the program memory.

A program that cannot be assembled, or an image that cannot be decoded, is refused
before its length is compared with the size of the memory.
-/

set_option autoImplicit false

namespace HarvardBench

inductive LoadFailure where
  | assembly (failure : Assembly.Failure)
  | image (failure : ImageError)
  deriving DecidableEq, Repr

namespace Rom

def loadText (rom : Rom) (text : List Char) : Except LoadFailure (Assembly.Program × Rom) := do
  let program ← (Assembly.assemble text).mapError .assembly
  let loaded ← (rom.loadWords program.words).mapError .image
  return (program, loaded)

def loadImage (rom : Rom) (bytes : List Byte) : Except LoadFailure Rom := do
  let words ← (Image.decode bytes).mapError .image
  (rom.loadWords words).mapError .image

end Rom

end HarvardBench
