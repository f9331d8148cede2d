import HarvardBench.Markup.Scalar.Form

/-! Tags: the kinds of nodes. -/

set_option autoImplicit false

namespace HarvardBench.Markup

inductive Tag where
  | null | bool | int | float | binary | timestamp
  | omap | pairs | set | str | seq | map
  | merge
  | default
  | unknown
  deriving DecidableEq, Repr

namespace Tag

def standardLead : List Char := "tag:yaml.org,2002:".toList

def named : List (String × Tag) :=
  [("null", null), ("bool", bool), ("int", int), ("float", float), ("binary", binary),
    ("timestamp", timestamp), ("omap", omap), ("pairs", pairs), ("set", set), ("str", str),
    ("seq", seq), ("map", map), ("merge", merge), ("value", default)]

def ofName (name : List Char) : Tag :=
  match named.find? fun entry => standardLead ++ entry.1.toList == name with
  | some entry => entry.2
  | none => unknown

def ofForm (text : List Char) : Tag :=
  if Form.isTruth text then bool
  else if Form.isFloat text then float
  else if Form.isInteger text then int
  else if text = ['<', '<'] then merge
  else if Form.isNull text then null
  else if Form.isTimestamp text then timestamp
  else if text = ['='] then default
  else if text = ['!'] ∨ text = ['&'] ∨ text = ['*'] then unknown
  else str

/-- The tag of a scalar that is given none, by its form. A line feed at the end does not
count, unless it is all there is. -/
def ofText (text : List Char) : Tag :=
  if text = ['\n'] then str else ofForm (Form.withoutBreak text)

end Tag

end HarvardBench.Markup
