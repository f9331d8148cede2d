import HarvardBench.Configuration.Reading
import HarvardBench.Proofs.Failure

/-! Where reading a configuration ends.

A configuration makes demands on its entries, one after another, and reading it ends at the first
that is not met. A demand for an integer that is not met is reported as a problem of the
configuration, as long as what is there instead can be shown. A section of the wrong shape and a
value that cannot be shown are not reported: their failures escape.
-/

set_option autoImplicit false

namespace HarvardBench

namespace Settings

inductive Demand where
  | mapping (tree : Tree)
  | integer (tree : Tree)
  | text (tree : Tree)

namespace Demand

variable [Host] (store : Store)

/-- What counts as nothing serves as a mapping, an integer may be written as a text, and everything
that can be shown serves as a text. -/
def Met : Demand → Prop
  | mapping tree => (∃ entries, store.resolve tree = .map entries) ∨ (store.resolve tree).isTruthy = false
  | integer tree =>
    (∃ value, tree = .atom (.number value)) ∨
      ∃ text value, tree = .atom (.text text) ∧ Text.integer? text.chars = some value
  | text tree => ∃ shown, store.shown tree = .ok shown

/-- The demand is not met, and this cannot be reported. -/
def Escapes (demand : Demand) : Prop :=
  ¬demand.Met store ∧
    match demand with
    | mapping _ => True
    | integer tree | text tree => ∃ failure, store.shown tree = .error failure

def failed? : Demand → Option Failure
  | mapping tree => failure? (sectionOf store (some tree))
  | integer tree => failure? (Settings.integer store tree)
  | text tree => failure? (shownText store tree)

end Demand

def demandAt (kind : Tree → Demand) (entries : Entries) (key : String) : List Demand :=
  ((Tree.entry? entries key).map kind).toList

def members (store : Store) (tree : Option Tree) : Entries :=
  match tree.map store.resolve with
  | some (.map entries) => entries
  | _ => []

def registerDemands (entries : Entries) : List Demand :=
  entries.flatMap fun (name, tree) => [.integer tree, .text (.atom name)]

def initialDemands (store : Store) (state : Entries) : List Demand :=
  demandAt .mapping state "registers" ++
    (registerDemands (members store (Tree.entry? state "registers")) ++
      (demandAt .integer state "ip" ++ demandAt .mapping state "flags"))

/-- The demands of a configuration in the order of reading. -/
def demands (store : Store) (entries : Entries) : List Demand :=
  let memory := members store (Tree.entry? entries "memory")
  demandAt .mapping entries "initial_state" ++
    (initialDemands store (members store (Tree.entry? entries "initial_state")) ++
      (demandAt .text entries "architecture" ++
        (demandAt .mapping entries "memory" ++
          (demandAt .integer memory "ram_size" ++
            (demandAt .integer memory "rom_size" ++
              (demandAt .integer entries "call_stack_depth" ++
                (demandAt .integer memory "ram_fill" ++ demandAt .integer entries "history_limit")))))))

/-- Reading gives settings, or reports a problem of the configuration. -/
def Reported [Host] (data : Data) : Prop :=
  (∃ settings, ofData data = .ok settings) ∨ ∃ problem, ofData data = .error (.refused problem)

/-! ### A single demand -/

variable [Host] {store : Store}

theorem sectionOf_cases (store : Store) (tree : Tree) :
    ((Demand.mapping tree).Met store ∧ sectionOf store (some tree) = .ok (members store (some tree))) ∨
      (¬(Demand.mapping tree).Met store ∧ sectionOf store (some tree) = .error .section) := by
  simp only [Demand.Met, sectionOf, members, Option.map_some]
  cases store.resolve tree with
  | map entries => exact .inl ⟨.inl ⟨entries, rfl⟩, rfl⟩
  | atom _ | list _ | pair _ _ | set _ | link _ => split <;> simp_all

theorem members_of_sectionOf {tree : Option Tree} {entries : Entries}
    (read : sectionOf store tree = .ok entries) : members store tree = entries := by
  cases tree with
  | none => exact Except.ok.inj read
  | some tree =>
    rcases sectionOf_cases store tree with ⟨_, outcome⟩ | ⟨_, outcome⟩
    · exact Except.ok.inj (outcome.symm.trans read)
    · rw [outcome] at read
      cases read

theorem integer_cases (store : Store) (tree : Tree) :
    ((Demand.integer tree).Met store ∧ ∃ value, integer store tree = .ok value) ∨
      (¬(Demand.integer tree).Met store ∧ integer store tree = notInteger store tree) := by
  unfold Demand.Met integer
  cases tree with
  | atom value =>
    cases value with
    | number value => exact .inl ⟨.inl ⟨value, rfl⟩, value, rfl⟩
    | text text => cases read : Text.integer? text.chars <;> simp [read]
    | _ => simp
  | _ => simp

namespace Demand

/-- Reading what is demanded fails exactly if the demand is not met. What it fails with is a
problem of the configuration, unless the demand escapes. -/
theorem failed?_cases (store : Store) (demand : Demand) :
    (demand.Met store ∧ demand.failed? store = none) ∨
      ¬demand.Met store ∧ ∃ failure, demand.failed? store = some failure ∧
        (demand.Escapes store ↔ ∀ problem, failure ≠ .refused problem) := by
  cases demand with
  | mapping tree =>
    rcases sectionOf_cases store tree with ⟨met, outcome⟩ | ⟨unmet, outcome⟩
    · exact .inl ⟨met, congrArg failure? outcome⟩
    · exact .inr ⟨unmet, _, congrArg failure? outcome, by simp [Escapes, unmet]⟩
  | integer tree =>
    rcases integer_cases store tree with ⟨met, value, outcome⟩ | ⟨unmet, outcome⟩
    · exact .inl ⟨met, congrArg failure? outcome⟩
    · rw [failed?, outcome, notInteger, shownText, Escapes]
      refine .inr ⟨unmet, ?_⟩
      cases store.shown tree with
      | ok shown => exact ⟨_, rfl, by simp [Problem.failure, Problem.numbers]⟩
      | error failure => cases failure <;> exact ⟨_, rfl, by simp [Failure.ofPrint, unmet]⟩
  | text tree =>
    rw [Escapes, Met, failed?, shownText]
    cases store.shown tree with
    | ok shown => exact .inl ⟨⟨shown, rfl⟩, rfl⟩
    | error failure => exact .inr ⟨by simp, _, rfl, by cases failure <;> simp [Failure.ofPrint]⟩

theorem met_iff (demand : Demand) : demand.Met store ↔ demand.failed? store = none := by
  rcases failed?_cases store demand with ⟨met, read⟩ | ⟨unmet, failure, read, _⟩ <;> simp_all

theorem escapes_iff (demand : Demand) :
    demand.Escapes store ↔
      ∃ failure, demand.failed? store = some failure ∧ ∀ problem, failure ≠ .refused problem := by
  rcases failed?_cases store demand with ⟨met, read⟩ | ⟨unmet, failure, read, escapes⟩
  · simp [Escapes, met, read]
  · simp [escapes, read]

end Demand

/-! ### All demands -/

theorem failure?_sectionOf (entries : Entries) (key : String) :
    failure? (sectionOf store (Tree.entry? entries key)) =
      (demandAt .mapping entries key).findSome? (Demand.failed? store) := by
  unfold demandAt
  cases Tree.entry? entries key with
  | none => rfl
  | some tree => simp [Demand.failed?]

theorem failure?_integerAt (entries : Entries) (key : String) (default : Int) :
    failure? (integerAt store entries key default) =
      (demandAt .integer entries key).findSome? (Demand.failed? store) := by
  unfold demandAt integerAt
  cases Tree.entry? entries key with
  | none => rfl
  | some tree => simp [Demand.failed?]

theorem failure?_architectureOf (entries : Entries) :
    failure? (architectureOf store entries) =
      (demandAt .text entries "architecture").findSome? (Demand.failed? store) := by
  unfold demandAt architectureOf
  cases Tree.entry? entries "architecture" with
  | none => rfl
  | some tree => simp [Demand.failed?]

theorem failure?_registers (known : Table RawText Int) (entries : Entries) :
    failure? (registers store known entries) = (registerDemands entries).findSome? (Demand.failed? store) := by
  induction entries generalizing known with
  | nil => rfl
  | cons entry rest ih =>
    obtain ⟨name, tree⟩ := entry
    rw [registerDemands, List.flatMap_cons, List.cons_append, findSome?_cons_eq_or]
    refine failure?_bind rfl fun value _ => ?_
    rw [List.cons_append, findSome?_cons_eq_or]
    exact failure?_bind failure?_bind_pure fun lowered _ => ih (known.put lowered value)

theorem failure?_initialOf (state : Entries) :
    failure? (initialOf store state) = (initialDemands store state).findSome? (Demand.failed? store) := by
  simp only [initialDemands, List.findSome?_append]
  refine failure?_bind (failure?_sectionOf state "registers") fun named read => ?_
  obtain rfl := members_of_sectionOf read
  refine failure?_bind (failure?_registers [] _) fun values _ => ?_
  refine failure?_bind (failure?_integerAt state "ip" 0) fun ip _ => ?_
  exact failure?_bind_pure.trans (failure?_sectionOf state "flags")

theorem failure?_ofEntries (entries : Entries) :
    failure? (ofEntries store entries) = (demands store entries).findSome? (Demand.failed? store) := by
  simp only [demands, List.findSome?_append]
  refine failure?_bind (failure?_sectionOf entries "initial_state") fun state read => ?_
  obtain rfl := members_of_sectionOf read
  refine failure?_bind (failure?_initialOf _) fun initial _ => ?_
  refine failure?_bind (failure?_architectureOf entries) fun architecture _ => ?_
  refine failure?_bind (failure?_sectionOf entries "memory") fun memory read => ?_
  obtain rfl := members_of_sectionOf read
  refine failure?_bind (failure?_integerAt _ "ram_size" _) fun ramSize _ => ?_
  refine failure?_bind (failure?_integerAt _ "rom_size" _) fun romSize _ => ?_
  refine failure?_bind (failure?_integerAt entries "call_stack_depth" _) fun depth _ => ?_
  refine failure?_bind (failure?_integerAt _ "ram_fill" _) fun fill _ => ?_
  exact failure?_bind_pure.trans (failure?_integerAt entries "history_limit" _)

theorem not_reported_iff (data : Data) :
    ¬Reported data ↔
      ∃ failure, failure? (ofData data) = some failure ∧ ∀ problem, failure ≠ .refused problem := by
  unfold Reported
  cases ofData data <;> simp [failure?]

/-- Reading reports what is wrong with a configuration, except if the first demand that it does not
meet escapes. -/
theorem reported_iff (data : Data) :
    Reported data ↔
      ¬∃ entries before demand after, data.store.resolve data.root = .map entries ∧
        demands data.store entries = before ++ demand :: after ∧
        (∀ earlier ∈ before, earlier.Met data.store) ∧ demand.Escapes data.store := by
  rw [← not_iff_not, not_not, not_reported_iff]
  unfold ofData
  split
  case h_1 entries mapping =>
    simp only [failure?_ofEntries, List.findSome?_eq_some_iff]
    constructor
    · rintro ⟨failure, ⟨before, demand, after, split, here, earlier⟩, unreported⟩
      exact ⟨entries, before, demand, after, mapping, split,
        fun demand member => demand.met_iff.mpr (earlier demand member),
        demand.escapes_iff.mpr ⟨failure, here, unreported⟩⟩
    · rintro ⟨_, before, demand, after, same, split, earlier, escapes⟩
      obtain rfl := Tree.map.inj (mapping.symm.trans same)
      obtain ⟨failure, here, unreported⟩ := demand.escapes_iff.mp escapes
      exact ⟨failure, ⟨before, demand, after, split, here,
        fun demand member => demand.met_iff.mp (earlier demand member)⟩, unreported⟩
  case h_2 other _ =>
    -- The wrong kind of root is a problem of the configuration.
    simp_all [failure?, Problem.failure, Problem.numbers]

omit [Host] in
/-- A list in the place of a section is reported on no host. -/
theorem not_reported_memory_list :
    ¬∃ _ : Host, Reported ⟨#[], .map [(.text (.ofString "memory"), .list [.atom (.number 1)])]⟩ := by
  rintro ⟨host, reported⟩
  refine (not_reported_iff _).mpr ⟨.section, ?_, nofun⟩ reported
  refine (failure?_ofEntries _).trans ?_
  simp [demands, demandAt, members, initialDemands, registerDemands, Tree.entry?, RawText.ofString_inj,
    Demand.failed?, sectionOf, Store.resolve, Tree.isTruthy, failure?]

end Settings

end HarvardBench
