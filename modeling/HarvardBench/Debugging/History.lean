import HarvardBench.Machine.Cycle

/-! A bounded history of executed instructions.

The origin is the state before the oldest snapshot that is kept. When a full
history takes another snapshot, its oldest one is dropped and becomes the origin.
-/

set_option autoImplicit false

namespace HarvardBench

structure History where
  limit : Nat
  origin : State
  snapshots : Array Snapshot := #[]
  deriving DecidableEq, Repr

namespace History

inductive SetupError where
  | limit
  | capacity (cause : CapacityError)
  deriving DecidableEq, Repr

def SetupError.message : SetupError → String
  | limit => "History limit must be a positive integer."
  | capacity cause => cause.message

def create (limit : Option Int) (origin : State) : Except SetupError History :=
  match cellCount? limit with
  | some limit => do
    (checkIndex limit).mapError .capacity
    return { limit, origin }
  | none => .error .limit

def size (history : History) : Nat := history.snapshots.size

def clear (history : History) (origin : State) : History :=
  { history with origin, snapshots := #[] }

def push (history : History) (snapshot : Snapshot) : History :=
  if history.snapshots.size = history.limit then
    { history with
      origin := (history.snapshots[0]?.map Snapshot.state).getD history.origin
      snapshots := (history.snapshots.eraseIdxIfInBounds 0).push snapshot }
  else { history with snapshots := history.snapshots.push snapshot }

def pop? (history : History) : Option (Snapshot × History) :=
  history.snapshots.back?.map fun latest =>
    (latest, { history with snapshots := history.snapshots.pop })

def last? (history : History) : Option Snapshot := history.snapshots.back?

def current (history : History) : State :=
  (history.last?.map Snapshot.state).getD history.origin

end History

end HarvardBench
