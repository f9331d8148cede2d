import HarvardBench.Configuration.Settings
import HarvardBench.Text.LetterCase

/-! Building the system that settings describe. -/

set_option autoImplicit false

namespace HarvardBench.Settings

def supportedArchitectures : List (List Char) := ["LCPU".toList]

def require (holds : Bool) (problem : Problem) : Except Failure Unit :=
  if holds then .ok () else .error problem.failure

def validate (settings : Settings) : Except Failure Unit := do
  require (Text.upper settings.architecture.chars ∈ supportedArchitectures)
    (.architecture settings.architecture)
  require (0 < settings.ramSize && settings.ramSize ≤ dataSpan) (.ramSize settings.ramSize)
  require (0 < settings.romSize && settings.romSize ≤ programSpan) (.romSize settings.romSize)
  require (0 < settings.depth) (.depth settings.depth)
  require (0 ≤ settings.fill && settings.fill ≤ 255) (.fill settings.fill)
  require (0 < settings.historyLimit) (.historyLimit settings.historyLimit)

def setRegisters (state : State) : Table RawText Int → Except Failure State
  | [] => .ok state
  | (name, value) :: rest =>
    match Register.ofName? name.chars with
    | none | some .null => .error (Problem.failure (.register name))
    | some register => setRegisters (state.set register value) rest

def initialState (settings : Settings) : Except Failure State := do
  let fresh := (State.initial settings.depth.toNat).jump settings.initial.ip
  let state ← setRegisters fresh settings.initial.registers
  return { state with flags := settings.initial.flags }

def build [Host] (settings : Settings) : Except Failure Machine := do
  settings.validate
  (checkCapacity settings.depth.toNat).mapError .capacity
  let state ← settings.initialState
  let ram := (Ram.zeroed settings.ramSize.toNat).fillWith (BitVec.ofInt 8 settings.fill)
  let rom := Rom.zeroed settings.romSize.toNat
  return { bus := { ram, rom }, depth := settings.depth.toNat, state }

end HarvardBench.Settings
