import HarvardBench.Proofs.Debugging.Replay
import HarvardBench.Proofs.Session.Frame

/-! What a session shows of its next instruction.

The status, the page, the disassembly and the snapshot of the next step read the program
memory and the labels on ways of their own. In every session they show the same word and the
same text, and the snapshot puts the first label of the address before it.
-/

set_option autoImplicit false

namespace HarvardBench

/-! ## Labels by address -/

namespace Symbols

/-- A label is taken under its address, unless another is there already. -/
def register (found : Table Int String) (entry : String × Int) : Table Int String :=
  if entry.2 ∈ found.keys then found else found.put entry.2 entry.1

def byAddress (symbols : Symbols) : Table Int String := symbols.foldl register []

theorem get?_register (found : Table Int String) (entry : String × Int) (address : Int) :
    (register found entry).get? address =
      (found.get? address).or (if entry.2 = address then some entry.1 else none) := by
  -- An address that is in the table keeps its label, so what was found before comes first.
  unfold register
  split
  · next known =>
    by_cases same : entry.2 = address
    · obtain ⟨taken, member, key⟩ := List.mem_map.mp known
      have held : (found.get? address).isSome := by
        simp only [Table.get?, Option.isSome_map, List.find?_isSome, decide_eq_true_eq]
        exact ⟨taken, member, key.trans same⟩
      rw [Option.or_of_isSome held]
    · rw [if_neg same, Option.or_none]
  · next fresh =>
    rw [Table.put_of_not_mem _ fresh, Table.get?, Table.get?, List.find?_append]
    by_cases same : entry.2 = address
    · rw [Option.map_or]
      simp [same]
    · simp [same]

theorem get?_byAddress (symbols : Symbols) (address : Int) :
    symbols.byAddress.get? address = symbols.nameAt? address := by
  have filled (found : Table Int String) :
      (symbols.foldl register found).get? address = (found.get? address).or (symbols.nameAt? address) := by
    induction symbols generalizing found with
    | nil => exact (Option.or_none).symm
    | cons entry rest ih =>
      rw [List.foldl_cons, ih, get?_register, Option.or_assoc]
      congr 1
      by_cases same : entry.2 = address <;> simp [nameAt?, same]
  exact filled []

theorem nameAt?_of_first {before after : Symbols} {name : String} {address : Int}
    (first : ∀ entry ∈ before, entry.2 ≠ address) :
    nameAt? (before ++ (name, address) :: after) address = some name := by
  have none : before.find? (fun entry => entry.2 == address) = .none := by
    simpa using first
  simp [nameAt?, List.find?_append, none]

theorem nameAt?_of_none {symbols : Symbols} {address : Int} (none : ∀ entry ∈ symbols, entry.2 ≠ address) :
    symbols.nameAt? address = .none := by
  simpa [nameAt?] using none

end Symbols

/-! ## The views of a session -/

namespace Session

def pageCell? (session : Session) (offset : Nat) : Option Word :=
  session.page[offset / pageColumns]?.bind fun row => row[offset % pageColumns]?

/-- What is shown of the address and text of the next instruction, and the snapshot and the word
of the step that executes it. -/
structure Shows (session : Session) (ip : Int) (text : String) (snapshot : Snapshot) (word : Word) : Prop where
  debuggerStep : session.debugger.step.1 = .ok snapshot
  step : (session.step 1).1 = .ok [snapshot]
  executed : snapshot.word = some word
  held : session.machine.bus.peekWord ip = word
  cell : ∃ offset : Nat, ip = session.pageBase + offset ∧ session.pageCell? offset = some word
  named : ∀ before name after, session.symbols = before ++ (name, ip) :: after →
    (∀ entry ∈ before, entry.2 ≠ ip) → snapshot.symbol = some (name ++ ": " ++ text)
  unnamed : (∀ entry ∈ session.symbols, entry.2 ≠ ip) → snapshot.symbol = some text
  row : ip < session.machine.bus.rom.size → session.machine.disassemble ip 1 = .ok [⟨ip, word, text⟩]

/-- The labels of the machine are those of the session, and as long as the machine is not
halted, the next step executes what is shown. -/
structure Truthful (session : Session) : Prop where
  tables : session.machine.symbols = session.symbols
  reverse : ∀ address, session.machine.symbols.byAddress.get? address = session.symbols.nameAt? address
  shows : session.machine.state.halted = false → ∀ ip text, session.status = (ip, text) →
    ∃ snapshot word, session.Shows ip text snapshot word

structure Labelled (session : Session) : Prop where
  same : session.machine.symbols = session.symbols
  named : ∀ label ∈ session.symbols.keys, label ≠ ""

theorem labelled_perform {session : Session} (labelled : session.Labelled) (action : Action) :
    (session.perform action).Labelled := by
  rcases session.setup_perform action with ⟨kept, setup⟩ | ⟨rom, symbols, _, named, taken, setup⟩
  · have machine : (session.perform action).machine.symbols = session.machine.symbols :=
      congrArg (fun setup => setup.1.symbols) setup
    exact ⟨by rw [machine, kept, labelled.same], by rw [kept]; exact labelled.named⟩
  · have machine : (session.perform action).machine.symbols = symbols :=
      congrArg (fun setup => setup.1.symbols) setup
    exact ⟨by rw [machine, taken], by rw [taken]; exact named⟩

theorem labelled_foldl {session : Session} (labelled : session.Labelled) (actions : List Action) :
    (actions.foldl perform session).Labelled := by
  induction actions generalizing session with
  | nil => exact labelled
  | cons action rest ih => exact ih (labelled_perform labelled action)

theorem labelled_create [Host] {settings : Settings} {session : Session} (created : create settings = .ok session) :
    session.Labelled := by
  obtain ⟨_, built, rest⟩ := bind_eq_ok_iff.mp created
  obtain ⟨_, _, made⟩ := bind_eq_ok_iff.mp rest
  obtain ⟨_, _, state, _, rfl⟩ := Settings.build_eq_ok_iff.mp built
  obtain rfl := Except.ok.inj made
  exact ⟨rfl, by simp [ofMachine, Table.keys]⟩

/-! ## The next step -/

section Next

variable {settings : Settings} {session : Session} (fits : session.debugger.Fits settings)

include fits

theorem exists_address : ∃ address < programSpan, session.machine.state.ip = (address : Nat) := by
  obtain ⟨low, high⟩ : 0 ≤ session.machine.state.ip ∧ session.machine.state.ip < programSpan :=
    fits.machine.state.wellFormed.ip
  exact ⟨session.machine.state.ip.toNat, by omega, (Int.toNat_of_nonneg low).symm⟩

theorem exists_pageCell : ∃ offset : Nat, session.machine.state.ip = session.pageBase + offset ∧
    session.pageCell? offset = some (session.machine.bus.peekWord session.machine.state.ip) := by
  obtain ⟨address, inside, same⟩ := exists_address fits
  have base : session.pageBase = address - address % 128 := by
    rw [pageBase, same, programAddress_of_lt inside]
    rfl
  have row : address % 128 / 16 < 8 := by omega
  have column : address % 128 % 16 < 16 := by omega
  have whole : session.pageBase + address % 128 / 16 * 16 + address % 128 % 16 = address := by omega
  refine ⟨address % 128, by omega, ?_⟩
  simp only [pageCell?, page, pageRows, pageColumns, List.getElem?_map, List.getElem?_range row,
    Option.map_some, Option.bind_some, List.getElem?_range column, whole, same]

theorem disassemble_next (inside : session.machine.state.ip < session.machine.bus.rom.size) :
    session.machine.disassemble session.machine.state.ip 1 =
      .ok [⟨session.machine.state.ip, session.machine.bus.peekWord session.machine.state.ip,
        (session.machine.bus.peekWord session.machine.state.ip).text session.machine.symbols⟩] := by
  obtain ⟨address, small, same⟩ := exists_address fits
  rw [same] at inside ⊢
  have within : address < session.machine.bus.rom.words.size := Int.ofNat_lt.mp inside
  have cell : cellIndex? session.machine.bus.rom.words.size address = some ⟨address, within⟩ :=
    dif_pos ⟨Int.natCast_nonneg address, inside⟩
  have held : session.machine.bus.peekWord address = session.machine.bus.rom.words[address] := by
    rw [Bus.peekWord, programAddress_of_lt small, Rom.wordAt, Array.getElem?_eq_getElem within,
      Option.getD_some]
  unfold Machine.disassemble Rom.disassemble
  rw [show (1 : Int).toNat = 1 from rfl, Rom.rows, if_neg (by omega), Rom.read, cell, held]
  rfl

theorem exists_step (running : session.machine.state.halted = false) :
    ∃ snapshot, session.debugger.step.1 = .ok snapshot ∧ (session.step 1).1 = .ok [snapshot] ∧
      snapshot.word = some (session.machine.bus.peekWord session.machine.state.ip) ∧
      snapshot.symbol = some (session.machine.symbolText session.machine.state.ip
        (session.machine.bus.peekWord session.machine.state.ip)) := by
  obtain ⟨address, small, same⟩ := exists_address fits
  have fetched : session.machine.word = session.machine.bus.peekWord session.machine.state.ip := by
    rw [Machine.word, same, Int.toNat_natCast, Bus.peekWord, programAddress_of_lt small, Rom.wordAt]
  obtain ⟨processor, state⟩ := fits.machine.state.wellFormed.exists_processor
  have cycle := Machine.step_state state running
  obtain ⟨_, stepped⟩ := Debugger.step_of_running running cycle
  refine ⟨_, congrArg Prod.fst stepped, ?_, congrArg some fetched, ?_⟩
  · rw [step, show (1 : Int).toNat = 1 from rfl, steps, stepped]
    rfl
  · rw [← fetched]
    rfl

end Next

theorem symbolText_of_labelled {machine : Machine} {address : Int} {word : Word} {name : String}
    (found : machine.symbols.nameAt? address = some name) (named : name ≠ "") :
    machine.symbolText address word = name ++ ": " ++ word.text machine.symbols := by
  rw [Machine.symbolText, found]
  exact if_neg (by simpa using named)

theorem symbolText_of_unlabelled {machine : Machine} {address : Int} {word : Word}
    (none : machine.symbols.nameAt? address = none) :
    machine.symbolText address word = word.text machine.symbols := by
  rw [Machine.symbolText, none]

theorem shows_next {settings : Settings} {session : Session} (fits : session.debugger.Fits settings)
    (labelled : session.Labelled) (running : session.machine.state.halted = false) :
    ∃ snapshot, session.Shows session.machine.state.ip
      ((session.machine.bus.peekWord session.machine.state.ip).text session.symbols) snapshot
      (session.machine.bus.peekWord session.machine.state.ip) := by
  obtain ⟨snapshot, debuggerStep, step, executed, symbol⟩ := exists_step fits running
  refine ⟨snapshot, debuggerStep, step, executed, rfl, exists_pageCell fits, ?_, ?_, ?_⟩
  · intro before name after table first
    have found : Symbols.nameAt? (before ++ (name, session.machine.state.ip) :: after)
        session.machine.state.ip = some name := Symbols.nameAt?_of_first first
    have named : name ≠ "" := labelled.named name (by rw [table]; simp [Table.keys])
    rw [← table, ← labelled.same] at found
    rw [symbol, symbolText_of_labelled found named, labelled.same]
  · intro none
    have found := Symbols.nameAt?_of_none none
    rw [← labelled.same] at found
    rw [symbol, symbolText_of_unlabelled found, labelled.same]
  · intro inside
    rw [disassemble_next fits inside, labelled.same]

/-- Whatever is done to a session that settings describe, what it shows is what it runs. -/
theorem reachable_truthful [Host] {settings : Settings} {session : Session}
    (created : create settings = .ok session) (actions : List Action) : (actions.foldl perform session).Truthful := by
  have fits := fits_foldl (fits_create created) actions
  have labelled := labelled_foldl (labelled_create created) actions
  refine ⟨labelled.same, fun address => ?_, fun running ip text shown => ?_⟩
  · rw [Symbols.get?_byAddress, labelled.same]
  · obtain ⟨rfl, rfl⟩ := Prod.mk.inj shown
    obtain ⟨snapshot, shows⟩ := shows_next fits labelled running
    exact ⟨snapshot, _, shows⟩

def aliasedActions : List Action := [.compile "first:\nsecond: jmp second".toList, .step 2, .back]

theorem reachable_truthful_aliased :
    @create Settings.scantHost tiny = .ok tinySession ∧
      (aliasedActions.foldl perform tinySession).machine.state.halted = false ∧
      (aliasedActions.foldl perform tinySession).status = (0, "JMP first") ∧
      ∃ snapshot word, (aliasedActions.foldl perform tinySession).Shows 0 "JMP first" snapshot word ∧
        snapshot.symbol = some "first: JMP first" := by
  have created : @create Settings.scantHost tiny = .ok tinySession := by rfl
  have running : (aliasedActions.foldl perform tinySession).machine.state.halted = false := by decide +kernel
  have shown : (aliasedActions.foldl perform tinySession).status = (0, "JMP first") := by decide +kernel
  have table : (aliasedActions.foldl perform tinySession).symbols = [] ++ ("first", 0) :: [("second", 0)] := by
    decide +kernel
  have truthful := @reachable_truthful Settings.scantHost _ _ created aliasedActions
  obtain ⟨snapshot, word, shows⟩ := truthful.shows running 0 _ shown
  exact ⟨created, running, shown, snapshot, word, shows, shows.named [] "first" _ table (by simp)⟩

end Session

end HarvardBench
