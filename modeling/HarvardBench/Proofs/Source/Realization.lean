import HarvardBench.Proofs.Assembly.Addressing
import HarvardBench.Proofs.Source.Interpreter

/-! The words of a program realize the statements of its text.

The entry of a label, found by the positions of lines, is the address of the label, found
by counting codes. So each word holds the instruction of the statement at its index.
-/

set_option autoImplicit false

namespace HarvardBench.Source

open Assembly Text

/-- The instruction of a statement: a branch to a label goes to the entry of the label. -/
def Realizes (entry : String → Option Nat) : Statement → Instruction → Prop
  | .branch operation label, instruction =>
    ∃ build index, operation.branching? = some build ∧ entry label = some index ∧
      instruction = build (BitVec.ofNat 12 index)
  | .plain own, instruction => instruction = own

section Codes

variable {symbols : Symbols} {code : List Char} {word : Word}

theorem format_of_branching {opcode : Opcode} {build : BitVec 12 → Instruction}
    (branches : opcode.branching? = some build) : opcode.format = .programAddress :=
  Opcode.branching?_isSome_iff.mp (by rw [branches]; rfl)

theorem refers_of_name (named : isName (operandsOf code) = true)
    (free : isReserved (operandsOf code) = false) :
    Refers (operandsOf code) (String.ofList (operandsOf code)) := by
  refine ⟨by simpa using free, [], [], by simp, ⟨by simpa using named, by simp, by simp⟩⟩

theorem realizes_of_encodes (natural : ∀ entry ∈ symbols, 0 ≤ entry.2) (trimmed : Trimmed code)
    (encodes : Encodes symbols code word) :
    ∃ statement, Statement.ofCode code = .ok statement ∧
      Realizes (fun label => (symbols.get? label).map Int.toNat) statement word.instruction := by
  -- A code that refers to a label is a branch to it; any other is read as it stands.
  by_cases some : ∃ label, Refers (operandsOf code) label
  · obtain ⟨label, refers⟩ := some
    obtain ⟨sole, opcode, build, address, named, branches, known, rfl⟩ :=
      encodes.branch natural trimmed refers
    refine ⟨.branch opcode label, ?_, build, address, branches, by simp [known], by simp⟩
    unfold Statement.ofCode
    rw [named]
    dsimp only
    rw [if_pos ⟨format_of_branching branches, sole ▸ refers.isName, by simp [sole, refers.1]⟩, sole,
      String.ofList_toList]
  · have none : ∀ label, ¬ Refers (operandsOf code) label := not_exists.mp some
    obtain ⟨found, read, rfl⟩ :=
      statementWord_eq_ok_iff.mp ((encodes_of_no_reference trimmed none).mp encodes)
    refine ⟨.plain found, ?_, by simp [Realizes]⟩
    unfold Statement.ofCode
    split
    · split
      · next free =>
        obtain ⟨_, named, unreserved⟩ := free
        exact absurd (refers_of_name named (by simpa using unreserved)) (none _)
      · exact map_eq_ok_iff.mpr ⟨found, read, rfl⟩
    · exact map_eq_ok_iff.mpr ⟨found, read, rfl⟩

end Codes

def ReadAs (entry : List Char × Nat) (statement : Nat × Statement) : Prop :=
  Statement.ofCode (codeOf entry.1) = .ok statement.2 ∧ statement.1 = entry.2

section Lines

variable {lines above below : List (List Char)} {line : List Char} {label : String} {program : Program}

theorem map_coded (lines : List (List Char)) :
    (Program.coded lines).map (fun entry => codeOf entry.1) = codes lines := by
  have whole : lines.zipIdx.map (fun entry => codeOf entry.1) = lines.map codeOf := by
    conv => rhs; rw [← List.zipIdx_map_fst 0 lines, List.map_map]
    rfl
  rw [codes, ← whole, List.filter_map]
  rfl

/-- What is read from some lines: a statement for each code, and the labels where they stand. -/
theorem ofLines_eq_ok_iff :
    Program.ofLines lines = .ok program ↔
      List.Forall₂ ReadAs (Program.coded lines) program.statements ∧
        program.labels =
          lines.zipIdx.filterMap fun entry => (labelOf? entry.1).map fun label => (label, entry.2) := by
  unfold Program.ofLines
  rw [bind_eq_ok_iff]
  simp only [mapM_eq_ok_iff, map_eq_ok_iff, pure, Except.pure, Except.ok.injEq]
  constructor
  · rintro ⟨statements, read, rfl⟩
    refine ⟨read.imp ?_, rfl⟩
    rintro entry statement ⟨own, success, rfl⟩
    exact ⟨success, rfl⟩
  · rintro ⟨read, labelled⟩
    refine ⟨program.statements, read.imp ?_, by rw [← labelled]⟩
    rintro entry statement ⟨success, placed⟩
    exact ⟨statement.2, success, by rw [← placed]⟩

theorem keys_labels (read : Program.ofLines lines = .ok program) : program.labels.keys = declared lines := by
  rw [(ofLines_eq_ok_iff.mp read).2, Table.keys, List.map_filterMap, declared]
  conv => rhs; rw [← List.zipIdx_map_fst 0 lines, List.filterMap_map]
  congr 1
  funext entry
  cases named : labelOf? entry.1 <;> simp [named]

theorem coded_append (above below : List (List Char)) :
    (Program.coded (above ++ below)).map Prod.snd =
      (Program.coded above).map Prod.snd ++
        ((below.zipIdx above.length).filter fun entry => !(codeOf entry.1).isEmpty).map Prod.snd := by
  simp [Program.coded, List.zipIdx_append]

theorem positions_of_aligned {entries : List (List Char × Nat)} {statements : List (Nat × Statement)}
    (aligned : List.Forall₂ ReadAs entries statements) : statements.map Prod.fst = entries.map Prod.snd := by
  induction aligned with
  | nil => rfl
  | cons here _ ih => rw [List.map_cons, List.map_cons, here.2, ih]

theorem findIdx_of_apart {front back : List Nat} {start : Nat} (below : ∀ position ∈ front, position < start)
    (above : ∀ position ∈ back, start ≤ position) :
    ((front ++ back).findIdx fun position => start ≤ position) = front.length := by
  have none : (front.findIdx fun position => start ≤ position) = front.length := by
    apply List.findIdx_eq_length_of_false
    intro position member
    simpa using below position member
  rw [List.findIdx_append, none, if_neg (Nat.lt_irrefl _)]
  cases back with
  | nil => simp
  | cons position rest => simp [List.findIdx_cons, above position (by simp)]

/-- The entry of a label is the number of codes above its line. -/
theorem entry_of_line (read : Program.ofLines lines = .ok program) (distinct : (declared lines).Nodup)
    (split : lines = above ++ line :: below) (labelled : labelOf? line = some label) :
    program.entry label = (codes above).length := by
  obtain ⟨aligned, labels⟩ := ofLines_eq_ok_iff.mp read
  have known : program.labels.get? label = some above.length := by
    apply Table.get?_of_mem
    · rw [keys_labels read]
      exact distinct
    · rw [labels, split]
      refine List.mem_filterMap.mpr ⟨(line, above.length), ?_, by simp [labelled]⟩
      simp [List.mem_zipIdx_iff_getElem?]
  have positions := positions_of_aligned aligned
  -- Only the positions matter: below the label they are at least its own, above it less.
  have found : (program.statements.findIdx fun statement => above.length ≤ statement.1) =
      (program.statements.map Prod.fst).findIdx fun position => above.length ≤ position := by
    rw [List.findIdx_map]
    rfl
  unfold Program.entry
  rw [known]
  dsimp only
  rw [found, positions, split, coded_append, findIdx_of_apart, List.length_map, ← map_coded,
    List.length_map]
  · intro position member
    obtain ⟨entry, inside, rfl⟩ := List.mem_map.mp member
    have := List.snd_lt_of_mem_zipIdx (List.mem_filter.mp inside).1
    omega
  · intro position member
    obtain ⟨entry, inside, rfl⟩ := List.mem_map.mp member
    exact List.le_snd_of_mem_zipIdx (List.mem_filter.mp inside).1

end Lines

theorem Realizes.congr {first second : String → Option Nat} {statement : Statement} {instruction : Instruction}
    (agree : ∀ label index, first label = some index → second label = some index)
    (realizes : Realizes first statement instruction) : Realizes second statement instruction := by
  cases statement with
  | plain own => exact realizes
  | branch operation label =>
    obtain ⟨build, index, branches, entered, built⟩ := realizes
    exact ⟨build, index, branches, agree label index entered, built⟩

/-- An accepted text is read as statements that its words realize. -/
theorem realized_of_accepted {text : List Char} {assembled : Assembly.Program}
    (accepted : assemble text = .ok assembled) :
    ∃ program, Program.ofText text = .ok program ∧
      List.Forall₂ (fun statement word => Realizes (some ∘ program.entry) statement.2 (Word.instruction word))
        program.statements assembled.words := by
  obtain ⟨_, distinct, table, encoded⟩ := assemble_eq_ok_iff.mp accepted
  have natural : ∀ entry ∈ assembled.symbols, 0 ≤ entry.2 := table ▸ natural_addresses _
  rw [← map_coded, List.forall₂_map_left_iff] at encoded
  obtain ⟨statements, aligned, realized⟩ : ∃ statements,
      List.Forall₂ ReadAs (Program.coded (sourceLines text)) statements ∧
        List.Forall₂ (fun statement word => Realizes
          (fun label => (assembled.symbols.get? label).map Int.toNat) statement.2 (Word.instruction word))
          statements assembled.words := by
    apply forall₂_between encoded
    intro entry _ word encodes
    obtain ⟨statement, read, realizes⟩ := realizes_of_encodes natural (trimmed_codeOf entry.1) encodes
    exact ⟨(entry.2, statement), ⟨read, rfl⟩, realizes⟩
  -- The table of the assembler and the entries of the interpreter agree on each label.
  have read : Program.ofText text = .ok ⟨statements, _⟩ := ofLines_eq_ok_iff.mpr ⟨aligned, rfl⟩
  refine ⟨_, read, realized.imp fun statement word => Realizes.congr ?_⟩
  intro label index known
  obtain ⟨address, found, rfl⟩ := Option.map_eq_some_iff.mp known
  have member := Table.mem_of_get? found
  rw [table] at member
  obtain ⟨above, line, below, split, labelled, same⟩ := exists_line_of_mem member
  dsimp only at same
  rw [Function.comp_apply, entry_of_line read distinct split labelled, same, Nat.zero_add,
    Int.toNat_natCast, codes]

end HarvardBench.Source
