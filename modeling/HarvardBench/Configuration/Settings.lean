import HarvardBench.Debugging.Debugger
import HarvardBench.Table
import HarvardBench.Text.CodePoint
import HarvardBench.Text.Numeral

/-! The settings of a system, and the system they describe. -/

set_option autoImplicit false

namespace HarvardBench

structure InitialState where
  ip : Int := 0
  registers : Table RawText Int := []
  flags : Flags := {}
  deriving DecidableEq, Repr

structure Settings where
  architecture : RawText := .ofString "LCPU"
  ramSize : Int := dataSpan
  romSize : Int := programSpan
  depth : Int := State.defaultDepth
  fill : Int := 0
  historyLimit : Int := Debugger.defaultLimit
  initial : InitialState := {}
  deriving DecidableEq, Repr

namespace Settings

inductive Problem where
  | root (kind : String)
  | integer (shown : RawText)
  | architecture (name : RawText)
  | ramSize (value : Int)
  | romSize (value : Int)
  | depth (value : Int)
  | fill (value : Int)
  | historyLimit (value : Int)
  | register (name : RawText)
  deriving DecidableEq, Repr

namespace Problem

def message : Problem → RawText
  | root kind => .ofString s!"Configuration root must be a mapping, received {kind}"
  | integer shown => .ofString "Invalid integer format: " ++ shown
  | architecture name => .ofString "Unsupported architecture: " ++ name
  | ramSize value => .ofString s!"ram_size must be in range 1..1024, received {value}"
  | romSize value => .ofString s!"rom_size must be in range 1..4096, received {value}"
  | depth value => .ofString s!"call_stack_depth must be positive, received {value}"
  | fill value => .ofString s!"ram_fill must be an 8-bit value, received {value}"
  | historyLimit value => .ofString s!"history_limit must be positive, received {value}"
  | register name => .ofString "Unknown register in initial_state: " ++ name

def numbers : Problem → List Int
  | ramSize value | romSize value | depth value | fill value | historyLimit value => [value]
  | root _ | integer _ | architecture _ | register _ => []

end Problem

inductive Failure where
  | refused (problem : Problem)
  /-- A section that is neither empty nor a mapping. -/
  | section
  | numeralTooLong
  | nesting
  /-- A depth or a limit that nothing can be built with. -/
  | capacity (cause : CapacityError)
  deriving DecidableEq, Repr

def Problem.failure (problem : Problem) : Failure :=
  if problem.numbers.all Text.isShowable then .refused problem else .numeralTooLong

end Settings

end HarvardBench
