import HarvardBench.Proofs.Memory.Undo
import HarvardBench.Proofs.Success

/-! The log of the bus as a trace of what was done to the memories.

The writes of a trace, applied in order to the memory it started from, give every memory it went
through. The trace explains that memory if each of its reads found, and each of its writes
replaced, the byte that these writes left there. A trace that does can be taken back.
-/

set_option autoImplicit false

namespace HarvardBench

/-- The bytes that an access found in a memory are those that it was logged with. -/
def Access.Finds (ram : Ram) : Access → Prop
  | .read address byte => byte = ram.byteAt address
  | .write address _ previous => previous = ram.byteAt address
  | .fetch .. => True

namespace Ram

def redoAccess (ram : Ram) : Access → Ram
  | .write address byte _ => ram.put address byte
  | .fetch .. | .read .. => ram

def redo (ram : Ram) (accesses : List Access) : Ram := accesses.foldl redoAccess ram

/-- Each access finds what the accesses before it have made of the memory. -/
def Explains (ram : Ram) (accesses : List Access) : Prop :=
  ∀ earlier access later, accesses = earlier ++ access :: later → access.Finds (ram.redo earlier)

variable {ram : Ram} {access : Access} {front back accesses : List Access}

theorem redo_append : ram.redo (front ++ back) = (ram.redo front).redo back := by
  rw [redo, List.foldl_append]
  rfl

theorem explains_nil : ram.Explains [] := by
  intro earlier access later split
  simp at split

theorem explains_singleton (finds : access.Finds ram) : ram.Explains [access] := by
  intro earlier other later split
  cases earlier with
  | nil => exact (List.cons.inj split).1 ▸ finds
  | cons head rest =>
    have short := congrArg List.length split
    simp at short

theorem Explains.append (first : ram.Explains front) (second : (ram.redo front).Explains back) :
    ram.Explains (front ++ back) := by
  intro earlier access later split
  -- The access stands behind the front or within it.
  rcases List.append_eq_append_iff.mp split with ⟨middle, rfl, behind⟩ | ⟨middle, before, behind⟩
  · rw [redo_append]
    exact second middle access later behind
  · cases middle with
    | nil =>
      rw [List.append_nil] at before
      exact before ▸ second [] access later behind.symm
    | cons head rest =>
      obtain ⟨rfl, rfl⟩ := List.cons.inj behind
      exact first earlier access rest before

theorem Explains.head (explains : ram.Explains (access :: accesses)) : access.Finds ram :=
  explains [] access accesses rfl

theorem Explains.tail (explains : ram.Explains (access :: accesses)) :
    (ram.redoAccess access).Explains accesses := fun earlier other later split =>
  explains (access :: earlier) other later (congrArg (access :: ·) split)

/-- Accesses that explain a memory give it back when what they did to it is undone. -/
theorem Explains.undo_redo (explains : ram.Explains accesses)
    (narrow : ∀ address byte previous, .write address byte previous ∈ accesses → address < dataSpan) :
    (ram.redo accesses).undo accesses = ram := by
  induction accesses generalizing ram with
  | nil => rfl
  | cons access rest ih =>
    have later : ((ram.redoAccess access).redo rest).undo rest = ram.redoAccess access :=
      ih explains.tail fun address byte previous member => narrow address byte previous (.tail _ member)
    -- Undoing goes backwards, so the rest is undone first and leaves what this access made.
    rw [undo_cons, redo, List.foldl_cons, ← redo, later]
    cases access with
    | fetch address word => rfl
    | read address byte => rfl
    | write address byte previous =>
      have found : previous = ram.byteAt address := explains.head
      have own := dataAddress_of_lt (narrow address byte previous (.head _))
      rw [redoAccess, undoAccess, own, found, put_put_self]

end Ram

/-- What the processor and the displays ask of the bus. -/
inductive Bus.Request where
  | fetch (address : Int)
  | read (address : Int)
  | write (address data : Int)
  | peekWord (address : Int)
  | peek (address : Int)
  deriving DecidableEq, Repr

namespace Bus

namespace Request

def serve (bus : Bus) : Request → Bus
  | .fetch address => (bus.fetch address).2
  | .read address => (bus.read address).2
  | .write address data => bus.write address data
  | .peekWord _ | .peek _ => bus

def isLogged : Request → Bool
  | .fetch _ | .read _ | .write _ _ => true
  | .peekWord _ | .peek _ => false

/-- A request has an entry in the log, of its kind and with its address reduced to the width. The word is
that of the program memory, and the byte is the low one of the data. -/
inductive Entry (rom : Rom) : Request → Access → Prop where
  | fetch (address : Int) :
      Entry rom (.fetch address) (.fetch (programAddress address) (rom.wordAt (programAddress address)))
  | read (address : Int) (byte : Byte) : Entry rom (.read address) (.read (dataAddress address) byte)
  | write (address data : Int) (previous : Byte) :
      Entry rom (.write address data) (.write (dataAddress address) (BitVec.ofInt 8 data) previous)

end Request

def serveAll (bus : Bus) (requests : List Request) : Bus := requests.foldl Request.serve bus

/-- The accesses that some requests add to the log explain what they do to the memories. -/
structure Traces (requests : List Request) (bus reached : Bus) (made : List Access) : Prop where
  logged : reached.log = bus.log ++ made
  entries : List.Forall₂ (Request.Entry bus.rom) (requests.filter Request.isLogged) made
  explains : bus.ram.Explains made
  redone : bus.ram.redo made = reached.ram
  rom : reached.rom = bus.rom

namespace Traces

variable {request : Request} {front back requests : List Request} {bus between reached : Bus}
  {first second made : List Access}

theorem nil : Traces [] bus bus [] := ⟨(List.append_nil _).symm, .nil, Ram.explains_nil, rfl, rfl⟩

theorem serve (bus : Bus) (request : Request) : ∃ made, Traces [request] bus (request.serve bus) made := by
  cases request with
  | fetch address =>
    exact ⟨_, rfl, .cons (.fetch address) .nil, Ram.explains_singleton trivial, rfl, rfl⟩
  | read address =>
    exact ⟨_, rfl, .cons (.read address (bus.peek address)) .nil, Ram.explains_singleton rfl, rfl, rfl⟩
  | write address data =>
    -- The byte that is logged as replaced is taken before the new one is stored.
    exact ⟨_, rfl, .cons (.write address data (bus.peek address)) .nil, Ram.explains_singleton rfl, rfl, rfl⟩
  | peekWord address => exact ⟨[], (List.append_nil _).symm, .nil, Ram.explains_nil, rfl, rfl⟩
  | peek address => exact ⟨[], (List.append_nil _).symm, .nil, Ram.explains_nil, rfl, rfl⟩

theorem append (before : Traces front bus between first) (after : Traces back between reached second) :
    Traces (front ++ back) bus reached (first ++ second) where
  logged := by rw [after.logged, before.logged, List.append_assoc]
  entries := by
    rw [List.filter_append]
    exact List.rel_append before.entries (before.rom ▸ after.entries)
  explains := before.explains.append (before.redone ▸ after.explains)
  redone := by rw [Ram.redo_append, before.redone, after.redone]
  rom := after.rom.trans before.rom

theorem serveAll (bus : Bus) (requests : List Request) :
    ∃ made, Traces requests bus (bus.serveAll requests) made := by
  induction requests generalizing bus with
  | nil => exact ⟨[], nil⟩
  | cons request rest ih =>
    obtain ⟨first, before⟩ := serve bus request
    obtain ⟨second, after⟩ := ih (request.serve bus)
    exact ⟨first ++ second, before.append after⟩

theorem narrow (traces : Traces requests bus reached made) (address : Nat) (byte previous : Byte)
    (member : .write address byte previous ∈ made) : address < dataSpan := by
  obtain ⟨request, _, entry⟩ := exists_of_mem_forall₂ traces.entries.flip member
  cases entry
  exact dataAddress_lt _

theorem undo (traces : Traces requests bus reached made) : reached.undo made = { reached with ram := bus.ram } := by
  rw [undo_eq, ← traces.redone, traces.explains.undo_redo traces.narrow]

end Traces

/-- From an empty log on, the log lists what was asked of the memories, tells every byte that was found in
the data memory, and makes the memory that was reached out of the first one and the first out of it. -/
theorem log_traces (ram : Ram) (rom : Rom) (requests : List Request) :
    let reached := serveAll { ram, rom } requests
    List.Forall₂ (Request.Entry rom) (requests.filter Request.isLogged) reached.log ∧
      ram.Explains reached.log ∧ ram.redo reached.log = reached.ram ∧
      reached.undo reached.log = { ram, rom, log := reached.log } := by
  intro reached
  obtain ⟨made, traces⟩ := Traces.serveAll { ram, rom } requests
  have whole : reached.log = made := traces.logged
  rw [whole]
  exact ⟨traces.entries, traces.explains, traces.redone,
    traces.undo.trans (congrArg₂ (Bus.mk ram) traces.rom whole)⟩

/-- Two names of one byte, and a byte that the memory does not have. -/
example :
    (serveAll { ram := ⟨#[1, 2]⟩, rom := ⟨#[]⟩ }
      [.write 1 7, .write (-1023) (-1), .peek 0, .read 1, .write 5 9]).log =
    [.write 1 7 2, .write 1 255 7, .read 1 255, .write 5 9 0] := by decide

end Bus

end HarvardBench
