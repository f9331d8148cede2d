import HarvardBench.Memory.Ram
import HarvardBench.Memory.Rom

/-! The bus between the processor and the two memories.

Addresses are reduced to their width, what lies outside a memory reads as zero
and takes no write, and no access fails. Fetches, reads and writes are logged; a
write is logged with the byte it replaced, so that it can be undone.
-/

set_option autoImplicit false

namespace HarvardBench

inductive Access where
  | fetch (address : Nat) (word : Word)
  | read (address : Nat) (byte : Byte)
  | write (address : Nat) (byte previous : Byte)
  deriving DecidableEq, Repr

inductive Access.Kind where
  | fetch | read | write
  deriving DecidableEq, Repr

def Access.Kind.name : Access.Kind → String
  | .fetch => "FETCH"
  | .read => "READ"
  | .write => "WRITE"

namespace Access

def kind : Access → Kind
  | fetch .. => .fetch
  | read .. => .read
  | write .. => .write

def address : Access → Nat
  | fetch address _ | read address _ | write address _ _ => address

def data : Access → Nat
  | fetch _ word => word.toNat
  | read _ byte | write _ byte _ => byte.toNat

def previous? : Access → Option Byte
  | write _ _ previous => some previous
  | fetch .. | read .. => none

end Access

structure Bus where
  ram : Ram
  rom : Rom
  log : List Access := []
  deriving DecidableEq, Repr

namespace Bus

def clearLog (bus : Bus) : Bus := { bus with log := [] }

def record (bus : Bus) (access : Access) : Bus := { bus with log := bus.log ++ [access] }

def peekWord (bus : Bus) (address : Int) : Word := bus.rom.wordAt (programAddress address)

def fetch (bus : Bus) (address : Int) : Word × Bus :=
  let word := bus.peekWord address
  (word, bus.record (.fetch (programAddress address) word))

def peek (bus : Bus) (address : Int) : Byte := bus.ram.byteAt (dataAddress address)

def read (bus : Bus) (address : Int) : Byte × Bus :=
  let byte := bus.peek address
  (byte, bus.record (.read (dataAddress address) byte))

/-- Store the low byte of some data, without a log entry. -/
def load (bus : Bus) (address data : Int) : Bus :=
  { bus with ram := bus.ram.put (dataAddress address) (BitVec.ofInt 8 data) }

def write (bus : Bus) (address data : Int) : Bus :=
  (bus.load address data).record
    (.write (dataAddress address) (BitVec.ofInt 8 data) (bus.peek address))

def undoAccess (bus : Bus) (access : Access) : Bus :=
  match access with
  | .write address _ previous => bus.load address previous.toNat
  | .fetch .. | .read .. => bus

/-- Put back what some accesses replaced, the latest first. -/
def undo (bus : Bus) (accesses : List Access) : Bus := accesses.reverse.foldl undoAccess bus

end Bus

end HarvardBench
