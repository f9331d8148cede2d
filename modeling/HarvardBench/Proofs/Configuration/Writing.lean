import HarvardBench.Configuration.Reading
import HarvardBench.Proofs.Success
import HarvardBench.Proofs.Text.Integer
import HarvardBench.Proofs.Text.LetterCase

/-! Configurations as they are written.

What has its default value may be left out, and a section in which all may be left out may itself be
left out or be null. An integer is a number or a plain numeral, and the letter case of the register
names is free. However settings are written, they are read back, with the register names in lower
case.
-/

set_option autoImplicit false

namespace HarvardBench.Settings

/-! ### The written form -/

def IsMapping (entries : Entries) : Prop := entries.Pairwise fun first second => first.1 ≠ second.1

/-- A key has a tree that is written as it should be, or is missing and may be. -/
def Field (entries : Entries) (key : String) (written : Tree → Prop) (omissible : Prop) : Prop :=
  (∃ tree, (.text (.ofString key), tree) ∈ entries ∧ written tree) ∨
    omissible ∧ ∀ tree, (.text (.ofString key), tree) ∉ entries

inductive WritesInteger (value : Int) : Tree → Prop where
  | number : WritesInteger value (.atom (.number value))
  | numeral {text : List Char} (written : Text.PlainNumeral text value) :
      WritesInteger value (.atom (.text (.ofChars text)))

inductive WritesSection (holds : Entries → Prop) : Tree → Prop where
  | null (empty : holds []) : WritesSection holds (.atom .null)
  | mapping {entries : Entries} (distinct : IsMapping entries) (held : holds entries) :
      WritesSection holds (.map entries)

structure WritesFlags (flags : Flags) (entries : Entries) : Prop where
  carry : Field entries "carry" (· = .atom (.truth flags.carry)) (flags.carry = false)
  zero : Field entries "zero" (· = .atom (.truth flags.zero)) (flags.zero = false)

/-- Each register by its name, in any letter case, in the order of the table. -/
def WritesRegisters (values : Table RawText Int) (entries : Entries) : Prop :=
  List.Forall₂ (fun register entry =>
    (∃ text, entry.1 = .text text ∧ register.1.SameLetters text) ∧ WritesInteger register.2 entry.2) values entries

structure WritesInitial (initial : InitialState) (entries : Entries) : Prop where
  ip : Field entries "ip" (WritesInteger initial.ip) (initial.ip = 0)
  registers :
    Field entries "registers" (WritesSection (WritesRegisters initial.registers)) (WritesRegisters initial.registers [])
  flags : Field entries "flags" (WritesSection (WritesFlags initial.flags)) (WritesFlags initial.flags [])

structure WritesMemory (settings : Settings) (entries : Entries) : Prop where
  ramSize : Field entries "ram_size" (WritesInteger settings.ramSize) (settings.ramSize = 1024)
  romSize : Field entries "rom_size" (WritesInteger settings.romSize) (settings.romSize = 4096)
  fill : Field entries "ram_fill" (WritesInteger settings.fill) (settings.fill = 0)

structure WritesEntries (settings : Settings) (entries : Entries) : Prop where
  architecture :
    Field entries "architecture" (· = .atom (.text settings.architecture)) (settings.architecture = .ofString "LCPU")
  memory : Field entries "memory" (WritesSection (WritesMemory settings)) (WritesMemory settings [])
  depth : Field entries "call_stack_depth" (WritesInteger settings.depth) (settings.depth = 16)
  historyLimit : Field entries "history_limit" (WritesInteger settings.historyLimit) (settings.historyLimit = 1000)
  initial :
    Field entries "initial_state" (WritesSection (WritesInitial settings.initial)) (WritesInitial settings.initial [])

inductive Writes (settings : Settings) : Tree → Prop where
  | mapping {entries : Entries} (distinct : IsMapping entries) (written : WritesEntries settings entries) :
      Writes settings (.map entries)

def lowerName (entry : RawText × Int) : RawText × Int := (entry.1.mapRuns Text.lower, entry.2)

/-- The settings with the names of the registers in lower case. If two names become one, the later
one has its value. -/
def lowered (settings : Settings) : Settings :=
  { settings with
    initial := { settings.initial with registers := .ofPairs (settings.initial.registers.map lowerName) } }

/-! ### Reading it -/

variable {store : Store} {entries : Entries} {key : String}

theorem entry?_of_mem {tree : Tree} (distinct : IsMapping entries)
    (member : (.text (.ofString key), tree) ∈ entries) : Tree.entry? entries key = some tree := by
  induction entries with
  | nil => cases member
  | cons entry rest ih =>
    obtain ⟨others, distinct⟩ := List.pairwise_cons.mp distinct
    rcases List.mem_cons.mp member with rfl | later
    · exact if_pos rfl
    · have apart := others _ later
      have found := ih distinct later
      obtain ⟨known, value⟩ := entry
      cases known <;> simp_all [Tree.entry?]

theorem entry?_eq_none (absent : ∀ tree, (.text (.ofString key), tree) ∉ entries) :
    Tree.entry? entries key = none := by
  induction entries with
  | nil => rfl
  | cons entry rest ih =>
    have missing := ih fun tree member => absent tree (List.mem_cons_of_mem _ member)
    obtain ⟨known, value⟩ := entry
    have apart : known ≠ .text (.ofString key) := by
      rintro rfl
      exact absent value List.mem_cons_self
    cases known <;> simp_all [Tree.entry?]

theorem Field.entry? {written : Tree → Prop} {omissible : Prop} (field : Field entries key written omissible)
    (distinct : IsMapping entries) :
    (∃ tree, Tree.entry? entries key = some tree ∧ written tree) ∨ omissible ∧ Tree.entry? entries key = none := by
  rcases field with ⟨tree, member, written⟩ | ⟨omissible, absent⟩
  · exact .inl ⟨tree, entry?_of_mem distinct member, written⟩
  · exact .inr ⟨omissible, entry?_eq_none absent⟩

theorem truthAt_of_field {value : Bool} (distinct : IsMapping entries)
    (field : Field entries key (· = .atom (.truth value)) (value = false)) : truthAt store entries key = value := by
  rcases field.entry? distinct with ⟨_, found, rfl⟩ | ⟨rfl, missing⟩
  · rw [truthAt, found]; rfl
  · rw [truthAt, missing]; rfl

theorem sectionOf_of_field (store : Store) {holds : Entries → Prop} (distinct : IsMapping entries)
    (field : Field entries key (WritesSection holds) (holds [])) :
    ∃ members, sectionOf store (Tree.entry? entries key) = .ok members ∧ IsMapping members ∧ holds members := by
  rcases field.entry? distinct with ⟨_, found, written⟩ | ⟨empty, missing⟩
  · rw [found]
    cases written with
    | null empty => exact ⟨[], rfl, .nil, empty⟩
    | mapping distinct held => exact ⟨_, rfl, distinct, held⟩
  · rw [missing]
    exact ⟨[], rfl, .nil, empty⟩

variable [Host]

theorem integer_of_writes {value : Int} {tree : Tree} (written : WritesInteger value tree) :
    integer store tree = .ok value := by
  cases written with
  | number => rfl
  | numeral written => rw [integer, RawText.chars_ofChars, Text.integer?_of_plainNumeral written]

theorem integerAt_of_field {value default : Int} (distinct : IsMapping entries)
    (field : Field entries key (WritesInteger value) (value = default)) :
    integerAt store entries key default = .ok value := by
  rcases field.entry? distinct with ⟨tree, found, written⟩ | ⟨rfl, missing⟩
  · rw [integerAt, found]
    exact integer_of_writes written
  · rw [integerAt, missing]

theorem registerName_of_sameLetters {name text : RawText} (letters : name.SameLetters text) :
    registerName store (.text text) = .ok (name.mapRuns Text.lower) :=
  congrArg Except.ok (RawText.mapRuns_lower_congr letters).symm

theorem registers_of_writes {values known : Table RawText Int} (written : WritesRegisters values entries) :
    registers store known entries =
      .ok ((values.map lowerName).foldl (fun table entry => table.put entry.1 entry.2) known) := by
  induction written generalizing known with
  | nil => rfl
  | @cons register entry _ _ here _ ih =>
    obtain ⟨key, tree⟩ := entry
    obtain ⟨⟨text, rfl, letters⟩, value⟩ := here
    rw [registers, integer_of_writes value, registerName_of_sameLetters letters]
    exact ih

theorem initialOf_of_writes {initial : InitialState} (distinct : IsMapping entries)
    (written : WritesInitial initial entries) :
    initialOf store entries = .ok { initial with registers := .ofPairs (initial.registers.map lowerName) } := by
  obtain ⟨named, readNamed, _, registers⟩ := sectionOf_of_field store distinct written.registers
  obtain ⟨flags, readFlags, distinctFlags, truths⟩ := sectionOf_of_field store distinct written.flags
  refine bind_eq_ok_iff.mpr ⟨named, readNamed, bind_eq_ok_iff.mpr ⟨_, registers_of_writes registers, ?_⟩⟩
  refine bind_eq_ok_iff.mpr ⟨_, integerAt_of_field distinct written.ip, ?_⟩
  refine bind_eq_ok_iff.mpr ⟨flags, readFlags, ?_⟩
  rw [truthAt_of_field distinctFlags truths.carry, truthAt_of_field distinctFlags truths.zero]
  rfl

theorem architectureOf_of_field {settings : Settings} (distinct : IsMapping entries)
    (field : Field entries "architecture" (· = .atom (.text settings.architecture))
      (settings.architecture = .ofString "LCPU")) : architectureOf store entries = .ok settings.architecture := by
  rcases field.entry? distinct with ⟨_, found, rfl⟩ | ⟨default, missing⟩
  · rw [architectureOf, found]; rfl
  · rw [architectureOf, missing, default]

theorem ofTree_of_writes {settings : Settings} {tree : Tree} (written : Writes settings tree) :
    ofTree tree = .ok settings.lowered := by
  obtain ⟨distinct, written⟩ := written
  obtain ⟨state, readState, distinctState, initial⟩ := sectionOf_of_field #[] distinct written.initial
  obtain ⟨memory, readMemory, distinctMemory, sizes⟩ := sectionOf_of_field #[] distinct written.memory
  refine bind_eq_ok_iff.mpr ⟨state, readState, ?_⟩
  refine bind_eq_ok_iff.mpr ⟨_, initialOf_of_writes distinctState initial, ?_⟩
  refine bind_eq_ok_iff.mpr ⟨_, architectureOf_of_field distinct written.architecture, ?_⟩
  refine bind_eq_ok_iff.mpr ⟨memory, readMemory, ?_⟩
  refine bind_eq_ok_iff.mpr ⟨_, integerAt_of_field distinctMemory sizes.ramSize, ?_⟩
  refine bind_eq_ok_iff.mpr ⟨_, integerAt_of_field distinctMemory sizes.romSize, ?_⟩
  refine bind_eq_ok_iff.mpr ⟨_, integerAt_of_field distinct written.depth, ?_⟩
  refine bind_eq_ok_iff.mpr ⟨_, integerAt_of_field distinctMemory sizes.fill, ?_⟩
  refine bind_eq_ok_iff.mpr ⟨_, integerAt_of_field distinct written.historyLimit, rfl⟩

end HarvardBench.Settings
