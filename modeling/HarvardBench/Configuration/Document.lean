import HarvardBench.Configuration.Reading
import HarvardBench.Markup.Data

/-! Settings as they are written in a document. -/

set_option autoImplicit false

namespace HarvardBench.Settings

inductive DocumentFailure where
  | markup (failure : Markup.Failure)
  | settings (failure : Failure)
  deriving DecidableEq, Repr

def ofText [Host] (text : List Char) : Except DocumentFailure Settings := do
  let data ← (Markup.document text).mapError .markup
  (ofDocument data).mapError .settings

end HarvardBench.Settings
