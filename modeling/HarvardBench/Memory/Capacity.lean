import HarvardBench.Host

/-! How many cells a store can have. -/

set_option autoImplicit false

namespace HarvardBench

inductive CapacityError where
  /-- The number of cells is no index: it takes more than sixty-three bits. -/
  | index
  | storage
  deriving DecidableEq, Repr

def CapacityError.message : CapacityError → String
  | index => "Size is too large for an index."
  | storage => "Size is too large for the storage."

def checkIndex (count : Nat) : Except CapacityError Unit :=
  if count < indexSpan then .ok () else .error .index

def checkCapacity [Host] (cells : Nat) : Except CapacityError Unit := do
  checkIndex cells
  if cells < Host.storage then return () else throw .storage

theorem checkCapacity_eq_ok_iff [Host] {cells : Nat} : checkCapacity cells = .ok () ↔ cells < Host.storage := by
  have counted := Host.storage_le
  unfold checkCapacity checkIndex
  split
  · simp only [bind, Except.bind, pure, Except.pure]
    split <;> simp_all [throw, throwThe, MonadExceptOf.throw]
  · simp only [bind, Except.bind, reduceCtorEq, false_iff]
    omega

end HarvardBench
