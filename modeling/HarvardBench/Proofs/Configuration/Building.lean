import HarvardBench.Configuration.System
import HarvardBench.Proofs.Configuration.Writing
import HarvardBench.Proofs.Symbols

/-! Building the system that a configuration describes.

A system is built exactly from settings that are within their bounds and whose call stack the host
has storage for. Its memories are filled, its call stack is empty, and its registers have the low
bytes of their initial values.
-/

set_option autoImplicit false

namespace HarvardBench

namespace Register

theorem ofName?_chars_eq_some_iff {name : RawText} {register : Register} :
    ofName? name.chars = some register ↔ name = .ofString register.name := by
  constructor
  · intro found
    have same : register.name.toList = name.chars := by simpa using List.find?_some found
    exact (RawText.chars_eq_iff (by cases register <;> decide)).mp same.symm
  · rintro rfl
    rw [RawText.ofString, RawText.chars_ofChars]
    cases register <;> rfl

theorem name_injective {first second : Register} (same : first.name = second.name) : first = second := by
  cases first <;> cases second <;> first | rfl | exact absurd same (by decide)

end Register

namespace Settings

structure Acceptable (settings : Settings) : Prop where
  architecture : settings.architecture.SameLetters (.ofString "LCPU")
  ramSize : 1 ≤ settings.ramSize ∧ settings.ramSize ≤ 1024
  romSize : 1 ≤ settings.romSize ∧ settings.romSize ≤ 4096
  depth : 1 ≤ settings.depth
  historyLimit : 1 ≤ settings.historyLimit
  fill : 0 ≤ settings.fill ∧ settings.fill ≤ 255
  registers : ∀ name ∈ settings.initial.registers.keys, name ∈ [.ofString "x", .ofString "y", .ofString "z"]

/-- The machine is as the settings describe it. -/
structure Describes (settings : Settings) (machine : Machine) : Prop where
  ramSize : (machine.bus.ram.size : Int) = settings.ramSize
  bytes : ∀ byte ∈ machine.bus.ram.bytes, (byte.toNat : Int) = settings.fill
  romSize : (machine.bus.rom.size : Int) = settings.romSize
  words : ∀ word ∈ machine.bus.rom.words, word = 0
  depth : (machine.state.callStack.length : Int) = settings.depth
  callStack : ∀ entry ∈ machine.state.callStack, entry = 0
  sp : machine.state.sp = 0
  running : machine.state.halted = false
  ip : machine.state.ip = settings.initial.ip % 4096
  given : ∀ register, register ≠ .null → ∀ value, (.ofString register.name, value) ∈ settings.initial.registers →
    machine.state.get register = value % 256
  missing : ∀ register : Register, .ofString register.name ∉ settings.initial.registers.keys →
    machine.state.get register = 0
  flags : machine.state.flags = settings.initial.flags

/-! ### Registers -/

section Registers

variable {state final : State} {values : Table RawText Int} {entry : RawText × Int}

theorem setRegisters_cons_eq_ok_iff :
    setRegisters state (entry :: values) = .ok final ↔
      ∃ register, register ≠ .null ∧ entry.1 = .ofString register.name ∧
        setRegisters (state.set register entry.2) values = .ok final := by
  simp only [← Register.ofName?_chars_eq_some_iff]
  rw [setRegisters]
  cases Register.ofName? entry.1.chars with
  | none => simp
  | some register => cases register <;> simp

theorem exists_setRegisters_iff :
    (∃ final, setRegisters state values = .ok final) ↔
      ∀ name ∈ Table.keys values, ∃ register : Register, register ≠ .null ∧ name = .ofString register.name := by
  induction values generalizing state with
  | nil => exact iff_of_true ⟨state, rfl⟩ nofun
  | cons entry rest ih =>
    simp only [setRegisters_cons_eq_ok_iff, Table.keys, List.map_cons, List.forall_mem_cons]
    constructor
    · rintro ⟨final, register, named, same, later⟩
      exact ⟨⟨register, named, same⟩, ih.mp ⟨final, later⟩⟩
    · rintro ⟨⟨register, named, same⟩, later⟩
      obtain ⟨final, later⟩ := ih.mpr later
      exact ⟨final, register, named, same, later⟩

theorem setRegisters_frame (success : setRegisters state values = .ok final) :
    final = { state with registers := final.registers } := by
  induction values generalizing state with
  | nil =>
    obtain rfl := Except.ok.inj success
    rfl
  | cons entry rest ih =>
    obtain ⟨_, _, _, later⟩ := setRegisters_cons_eq_ok_iff.mp success
    exact (ih later).trans rfl

theorem get_setRegisters_of_absent (success : setRegisters state values = .ok final) {register : Register}
    (absent : .ofString register.name ∉ Table.keys values) : final.get register = state.get register := by
  induction values generalizing state with
  | nil => rw [Except.ok.inj success]
  | cons entry rest ih =>
    obtain ⟨written, _, same, later⟩ := setRegisters_cons_eq_ok_iff.mp success
    obtain ⟨other, absent⟩ := not_or.mp (absent ∘ List.mem_cons.mpr)
    have different : register ≠ written := by
      rintro rfl
      exact other same.symm
    rw [ih later absent]
    exact Registers.get_set_other state.registers entry.2 different

theorem get_setRegisters_of_mem (success : setRegisters state values = .ok final)
    (distinct : (Table.keys values).Nodup) {register : Register} (named : register ≠ .null) {value : Int}
    (member : (.ofString register.name, value) ∈ values) : final.get register = value % 256 := by
  induction values generalizing state with
  | nil => cases member
  | cons entry rest ih =>
    obtain ⟨written, _, same, later⟩ := setRegisters_cons_eq_ok_iff.mp success
    obtain ⟨once, distinct⟩ := List.nodup_cons.mp distinct
    rcases List.mem_cons.mp member with rfl | member
    · obtain rfl := Register.name_injective (RawText.ofString_inj.mp same)
      rw [get_setRegisters_of_absent later once]
      exact Registers.get_set_self state.registers value named
    · exact ih later distinct member

end Registers

/-! ### Systems -/

variable {settings : Settings}

theorem require_eq_ok_iff {holds : Bool} {problem : Problem} {done : Unit} :
    require holds problem = .ok done ↔ holds = true := by
  cases holds <;> simp [require]

theorem validate_eq_ok_iff :
    settings.validate = .ok () ↔
      settings.architecture.SameLetters (.ofString "LCPU") ∧ (1 ≤ settings.ramSize ∧ settings.ramSize ≤ 1024) ∧
        (1 ≤ settings.romSize ∧ settings.romSize ≤ 4096) ∧ 1 ≤ settings.depth ∧
        (0 ≤ settings.fill ∧ settings.fill ≤ 255) ∧ 1 ≤ settings.historyLimit := by
  unfold validate
  simp only [bind_eq_ok_iff, require_eq_ok_iff, Bool.and_eq_true, decide_eq_true_eq, exists_const]
  rw [supportedArchitectures, List.mem_singleton, RawText.upper_chars_eq_iff]
  exact Iff.rfl

theorem mem_names_iff {name : RawText} :
    name ∈ [.ofString "x", .ofString "y", .ofString "z"] ↔
      ∃ register : Register, register ≠ .null ∧ name = .ofString register.name := by
  constructor
  · intro member
    rcases List.mem_cons.mp member with rfl | member
    · exact ⟨.x, nofun, rfl⟩
    rcases List.mem_cons.mp member with rfl | member
    · exact ⟨.y, nofun, rfl⟩
    obtain rfl := List.mem_singleton.mp member
    exact ⟨.z, nofun, rfl⟩
  · rintro ⟨register, named, rfl⟩
    cases register <;> simp_all [Register.name]

theorem acceptable_iff :
    settings.Acceptable ↔ settings.validate = .ok () ∧ ∀ name ∈ settings.initial.registers.keys,
      ∃ register : Register, register ≠ .null ∧ name = .ofString register.name := by
  simp only [validate_eq_ok_iff, ← mem_names_iff]
  constructor
  · rintro ⟨architecture, ramSize, romSize, depth, historyLimit, fill, registers⟩
    exact ⟨⟨architecture, ramSize, romSize, depth, fill, historyLimit⟩, registers⟩
  · rintro ⟨⟨architecture, ramSize, romSize, depth, fill, historyLimit⟩, registers⟩
    exact ⟨architecture, ramSize, romSize, depth, historyLimit, fill, registers⟩

def systemWith (settings : Settings) (state : State) : Machine where
  bus := {
    ram := (Ram.zeroed settings.ramSize.toNat).fillWith (.ofInt 8 settings.fill)
    rom := .zeroed settings.romSize.toNat }
  depth := settings.depth.toNat
  state := { state with flags := settings.initial.flags }

section Build

variable [Host]

theorem build_eq_ok_iff {machine : Machine} :
    settings.build = .ok machine ↔
      settings.validate = .ok () ∧ settings.depth.toNat < Host.storage ∧
        ∃ state, setRegisters ((State.initial settings.depth.toNat).jump settings.initial.ip)
            settings.initial.registers = .ok state ∧ settings.systemWith state = machine := by
  unfold build initialState
  simp only [bind_eq_ok_iff, mapError_eq_ok_iff]
  constructor
  · rintro ⟨_, valid, _, capacity, _, ⟨state, registers, same⟩, made⟩
    obtain rfl := Except.ok.inj same
    exact ⟨valid, checkCapacity_eq_ok_iff.mp capacity, state, registers, Except.ok.inj made⟩
  · rintro ⟨valid, capacity, state, registers, rfl⟩
    exact ⟨_, valid, _, checkCapacity_eq_ok_iff.mpr capacity, _, ⟨state, registers, rfl⟩, rfl⟩

theorem exists_build_iff :
    (∃ machine, settings.build = .ok machine) ↔ settings.Acceptable ∧ settings.depth < Host.storage := by
  have registers := @exists_setRegisters_iff ((State.initial settings.depth.toNat).jump settings.initial.ip)
    settings.initial.registers
  -- The depth is positive on both sides, so it counts the same as an integer.
  have positive (valid : settings.validate = .ok ()) : 1 ≤ settings.depth := (validate_eq_ok_iff.mp valid).2.2.2.1
  simp only [build_eq_ok_iff, acceptable_iff, ← registers]
  constructor
  · rintro ⟨_, valid, capacity, state, registers, _⟩
    have depth := positive valid
    exact ⟨⟨valid, state, registers⟩, by omega⟩
  · rintro ⟨⟨valid, state, registers⟩, capacity⟩
    have depth := positive valid
    exact ⟨_, valid, by omega, state, registers, rfl⟩

theorem describes_build {machine : Machine} (built : settings.build = .ok machine)
    (distinct : settings.initial.registers.keys.Nodup) : settings.Describes machine := by
  obtain ⟨valid, _, state, registers, rfl⟩ := build_eq_ok_iff.mp built
  obtain ⟨_, ramSize, romSize, depth, fill, _⟩ := validate_eq_ok_iff.mp valid
  -- Initial values change registers only, so all else is as in the initial state.
  have frame := setRegisters_frame registers
  have callStack : state.callStack = List.replicate settings.depth.toNat 0 := congrArg State.callStack frame
  constructor
  case ramSize => simp [systemWith]; omega
  case bytes =>
    intro byte member
    obtain ⟨_, rfl⟩ := Array.mem_replicate.mp member
    rw [BitVec.toNat_ofInt]
    omega
  case romSize => simp [systemWith]; omega
  case words => exact fun word member => (Array.mem_replicate.mp member).2
  case depth =>
    change (state.callStack.length : Int) = settings.depth
    rw [callStack, List.length_replicate]
    omega
  case callStack =>
    intro entry member
    exact List.eq_of_mem_replicate (callStack ▸ member)
  case sp => exact congrArg State.sp frame
  case running => exact congrArg State.halted frame
  case ip =>
    have jumped : state.ip = (settings.initial.ip % programSpan).toNat := congrArg State.ip frame
    change state.ip = settings.initial.ip % 4096
    rw [jumped, programSpan]
    omega
  case given =>
    intro register named value member
    exact get_setRegisters_of_mem registers distinct named member
  case missing =>
    intro register absent
    refine (get_setRegisters_of_absent registers absent).trans ?_
    cases register <;> rfl
  case flags => rfl

end Build

/-- A host with storage for a call stack of the default depth and for no more. -/
@[reducible] def scantHost : Host where
  storage := 17
  readDepth := 0
  mergeDepth := 0
  printDepth := 0
  storage_le := by decide

end Settings

end HarvardBench
