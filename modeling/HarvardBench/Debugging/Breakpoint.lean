import HarvardBench.Machine.Cycle

/-! Conditions that stop a run. -/

set_option autoImplicit false

namespace HarvardBench

namespace Breakpoint

inductive Kind where
  | ipMatch
  | memoryRead
  | memoryWrite
  | registerValue
  | registerChange
  deriving DecidableEq, Repr

namespace Kind

def all : List Kind := [ipMatch, memoryRead, memoryWrite, registerValue, registerChange]

def name : Kind → String
  | ipMatch => "IP_MATCH"
  | memoryRead => "MEMORY_READ"
  | memoryWrite => "MEMORY_WRITE"
  | registerValue => "REGISTER_VALUE"
  | registerChange => "REGISTER_CHANGE"

def ofName? (text : String) : Option Kind := all.find? fun kind => kind.name == text

end Kind

end Breakpoint

/-- A condition. Its kind decides which of the other fields matter; a field that is
missing where it matters makes a condition that never holds. -/
structure Breakpoint where
  kind : Breakpoint.Kind
  value : Option Int := none
  address : Option Int := none
  register : Option String := none
  enabled : Bool := true
  deriving DecidableEq, Repr

namespace Breakpoint

def part? (breakpoint : Breakpoint) : Option Attribute :=
  breakpoint.register.bind Attribute.ofName?

def stopsAt (breakpoint : Breakpoint) (ip : Int) : Bool :=
  breakpoint.enabled && breakpoint.kind == .ipMatch && breakpoint.value == some ip

def seesAccess (breakpoint : Breakpoint) (kind : Access.Kind) (accesses : List Access) : Bool :=
  accesses.any fun access => access.kind == kind && breakpoint.address == some (access.address : Int)

def seesValue (breakpoint : Breakpoint) (state : State) : Bool :=
  match breakpoint.part?, breakpoint.value with
  | some part, some value => (part.read state).hasValue value
  | _, _ => false

def seesChange (breakpoint : Breakpoint) (before after : State) : Bool :=
  match breakpoint.part? with
  | some part => part.read after != part.read before
  | none => false

/-- Whether a step that began in a state meets an enabled condition, one on the
instruction pointer aside. -/
def stopsAfter (breakpoint : Breakpoint) (before : State) (snapshot : Snapshot) : Bool :=
  breakpoint.enabled &&
    match breakpoint.kind with
    | .ipMatch => false
    | .memoryRead => breakpoint.seesAccess .read snapshot.accesses
    | .memoryWrite => breakpoint.seesAccess .write snapshot.accesses
    | .registerValue => breakpoint.seesValue snapshot.state
    | .registerChange => breakpoint.seesChange before snapshot.state

end Breakpoint

def replaceFirst {α : Type} [DecidableEq α] (old new : α) : List α → List α
  | [] => []
  | head :: rest => if head = old then new :: rest else head :: replaceFirst old new rest

end HarvardBench
