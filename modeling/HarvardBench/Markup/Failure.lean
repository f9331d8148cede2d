/-! Why a document has no tree. -/

set_option autoImplicit false

namespace HarvardBench.Markup

inductive Failure where
  | malformed
  | number
  | emptyNumber
  | truth
  | timeForm
  /-- The text of a time is the default value of a mapping. -/
  | timeMapping
  | calendar
  /-- An escape names no character, by a number of at most thirty-one bits or by a larger one. -/
  | character (large : Bool)
  /-- A place of a number to the base sixty is too high for a number with a point. -/
  | magnitude
  | nesting
  deriving DecidableEq, Repr

end HarvardBench.Markup
