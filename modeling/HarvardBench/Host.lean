/-! What a host grants.

How many cells there is storage for, and how deep collections can lie inside each other, is up to
the host that a program runs on and not to the program. Statements are about all hosts.
-/

set_option autoImplicit false

namespace HarvardBench

/-- The numbers that are an index: they take at most sixty-three bits. -/
def indexSpan : Nat := 1 <<< 63

class Host where
  /-- The number of cells for which there is no storage any more. -/
  storage : Nat
  /-- The number of nodes that can lie inside each other in a document. -/
  readDepth : Nat
  /-- The number of mappings that can lie inside each other where they are merged, or where the
  default value of one is read through another. -/
  mergeDepth : Nat
  /-- The number of trees that can lie inside each other in print. -/
  printDepth : Nat
  /-- What can be stored can be counted by an index. -/
  storage_le : storage ≤ indexSpan

end HarvardBench
