import HarvardBench.Table

/-! Labels and their addresses, in the order of declaration.

Where several labels have one address, the first of them stands for it.
-/

set_option autoImplicit false

namespace HarvardBench

abbrev Symbols := Table String Int

def Symbols.nameAt? (symbols : Symbols) (address : Int) : Option String :=
  (symbols.find? fun entry => entry.2 == address).map Prod.fst

end HarvardBench
