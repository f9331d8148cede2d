import HarvardBench.Proofs.Assembly.Codes

/-! Labels and words of accepted texts.

The invariant of the table is that it depends on counts only: splitting the lines
anywhere splits the table, and the second part starts at the number of codes in the
first. Order, bounds and single addresses follow from it.
-/

set_option autoImplicit false

namespace HarvardBench.Assembly

open Text

theorem codes_append (above below : List (List Char)) : codes (above ++ below) = codes above ++ codes below := by
  simp [codes]

theorem codes_cons_of_filled {line : List Char} (filled : codeOf line ≠ []) (below : List (List Char)) :
    codes (line :: below) = codeOf line :: codes below := by
  simp [codes, filled]

section Tables

variable {counts : List Char → Bool} {offset : Nat}

theorem keys_addressesBy (lines : List (List Char)) :
    (addressesBy counts offset lines).keys = declared lines := by
  induction lines generalizing offset with
  | nil => rfl
  | cons line rest ih =>
    have later := @ih (offset + (counts (codeOf line)).toNat)
    rw [declared_cons, addressesBy, ← later]
    cases labelOf? line <;> simp [Table.keys]

theorem addressesBy_append (above below : List (List Char)) :
    addressesBy counts offset (above ++ below) =
      addressesBy counts offset above ++
        addressesBy counts (offset + ((above.map codeOf).filter counts).length) below := by
  induction above generalizing offset with
  | nil => rfl
  | cons line above ih =>
    have advance : ((line :: above).map codeOf |>.filter counts).length =
        (counts (codeOf line)).toNat + ((above.map codeOf).filter counts).length := by
      by_cases counted : counts (codeOf line) = true
      · simp [counted, Nat.add_comm]
      · simp [counted]
    rw [List.cons_append, addressesBy, addressesBy, ih, advance, Nat.add_assoc, List.append_assoc]

theorem bounds_addressesBy {lines : List (List Char)} {entry : String × Int}
    (member : entry ∈ addressesBy counts offset lines) :
    (offset : Int) ≤ entry.2 ∧ entry.2 ≤ (offset + ((lines.map codeOf).filter counts).length : Nat) := by
  induction lines generalizing offset with
  | nil => simp [addressesBy] at member
  | cons line rest ih =>
    rcases List.mem_append.mp member with here | later
    · obtain ⟨label, _, rfl⟩ := List.mem_map.mp here
      exact ⟨Int.le_refl _, by omega⟩
    · obtain ⟨low, high⟩ := ih later
      by_cases counted : counts (codeOf line) = true
      · simp only [List.map_cons, List.filter_cons_of_pos counted, List.length_cons, counted,
          Bool.toNat_true] at low high ⊢
        omega
      · simp only [List.map_cons, List.filter_cons_of_neg counted,
          Bool.eq_false_iff.mpr counted, Bool.toNat_false] at low high ⊢
        omega

theorem exists_line_of_mem {lines : List (List Char)} {entry : String × Int}
    (member : entry ∈ addressesBy counts offset lines) :
    ∃ above line below, lines = above ++ line :: below ∧ labelOf? line = some entry.1 ∧
      entry.2 = (offset + ((above.map codeOf).filter counts).length : Nat) := by
  induction lines generalizing offset with
  | nil => simp [addressesBy] at member
  | cons line rest ih =>
    rcases List.mem_append.mp member with here | later
    · obtain ⟨label, named, rfl⟩ := List.mem_map.mp here
      exact ⟨[], line, rest, rfl, by simpa using named, by simp⟩
    · obtain ⟨above, labelled, below, split, named, same⟩ := ih later
      refine ⟨line :: above, labelled, below, by rw [split, List.cons_append], named, ?_⟩
      rw [same]
      by_cases counted : counts (codeOf line) = true
      · simp [counted, Nat.add_assoc, Nat.add_comm 1]
      · simp [counted]

theorem pairwise_addressesBy (lines : List (List Char)) :
    (addressesBy counts offset lines).Pairwise fun first second => first.2 ≤ second.2 := by
  induction lines generalizing offset with
  | nil => exact List.Pairwise.nil
  | cons line rest ih =>
    -- One line has one label at most, and all later addresses are its own or above.
    refine List.pairwise_append.mpr ⟨?_, ih, ?_⟩
    · cases labelOf? line <;> simp
    · intro first here second later
      obtain ⟨label, _, rfl⟩ := List.mem_map.mp here
      have low := (bounds_addressesBy later).1
      simp only
      omega

end Tables

theorem natural_addresses (lines : List (List Char)) : ∀ entry ∈ addresses lines, 0 ≤ entry.2 :=
  fun _ member => (bounds_addressesBy member).1

/-- A label has the number of codes above its line. -/
theorem get?_addresses {above below : List (List Char)} {line : List Char} {label : String}
    (distinct : (declared (above ++ line :: below)).Nodup) (labelled : labelOf? line = some label) :
    (addresses (above ++ line :: below)).get? label = some ((codes above).length : Int) := by
  apply Table.get?_of_mem
  · rw [addresses, keys_addressesBy]
    exact distinct
  · rw [addresses, addressesBy_append, Nat.zero_add]
    apply List.mem_append_right
    simp [addressesBy, labelled, codes]

/-- How the word of a code follows from the code and the label table. -/
structure Translates (symbols : Symbols) (code : List Char) (word : Word) : Prop where
  reference : ∀ label, Refers (operandsOf code) label →
    operandsOf code = label.toList ∧
      (∃ opcode ∈ [Opcode.jmp, .jc, .jz, .call], operationOf? code = some opcode ∧ word.opcode = opcode) ∧
        ∃ address, symbols.get? label = some address ∧ (word.toNat : Int) % 4096 = address % 4096
  plain : (∀ label, ¬ Refers (operandsOf code) label) → statementWord code = .ok word

/-- How a program follows from the lines of a text. -/
structure Describes (lines : List (List Char)) (program : Program) : Prop where
  count : program.words.length = (codes lines).length
  names : program.symbols.keys = declared lines
  distinct : (declared lines).Nodup
  address : ∀ above line below label, lines = above ++ line :: below → labelOf? line = some label →
    program.symbols.get? label = some ((codes above).length : Int)
  ordered : program.symbols.Pairwise fun first second => first.2 ≤ second.2
  bounded : ∀ entry ∈ program.symbols, 0 ≤ entry.2 ∧ entry.2 ≤ program.words.length
  word : ∀ above line below, lines = above ++ line :: below → codeOf line ≠ [] →
    ∃ word, program.words[(codes above).length]? = some word ∧
      Translates program.symbols (codeOf line) word

theorem mem_branches {opcode : Opcode} {build : BitVec 12 → Instruction}
    (branches : opcode.branching? = some build) : opcode ∈ [Opcode.jmp, .jc, .jz, .call] := by
  cases Opcode.branches_of_branching branches <;> simp

theorem Encodes.translates {symbols : Symbols} {code : List Char} {word : Word}
    (natural : ∀ entry ∈ symbols, 0 ≤ entry.2) (trimmed : Trimmed code)
    (encodes : Encodes symbols code word) : Translates symbols code word where
  reference := by
    intro label refers
    obtain ⟨sole, opcode, build, address, named, branches, known, rfl⟩ :=
      encodes.branch natural trimmed refers
    refine ⟨sole, ⟨opcode, mem_branches branches, named, ?_⟩, address, known, ?_⟩
    · rw [Instruction.opcode_word, Instruction.opcode_of_branching branches]
    · have laidOut := (build (BitVec.ofNat 12 address)).toNat_word
      rw [Instruction.payload_of_branching branches, BitVec.toNat_ofNat] at laidOut
      omega
  plain := fun none => (encodes_of_no_reference trimmed none).mp encodes

/-- Every accepted text describes its program. -/
theorem assemble_describes {text : List Char} {program : Program} (accepted : assemble text = .ok program) :
    Describes (sourceLines text) program := by
  obtain ⟨_, distinct, table, encoded⟩ := assemble_eq_ok_iff.mp accepted
  have count : program.words.length = (codes (sourceLines text)).length := encoded.length_eq.symm
  have natural : ∀ entry ∈ program.symbols, 0 ≤ entry.2 := table ▸ natural_addresses _
  refine ⟨count, ?_, distinct, ?_, ?_, ?_, ?_⟩
  · rw [table, addresses, keys_addressesBy]
  · intro above line below label split labelled
    rw [table]
    rw [split] at distinct ⊢
    exact get?_addresses distinct labelled
  · rw [table]
    exact pairwise_addressesBy _
  · intro entry member
    rw [table] at member
    obtain ⟨low, high⟩ := bounds_addressesBy member
    rw [count]
    exact ⟨low, by simpa [codes] using high⟩
  · intro above line below split filled
    rw [split, codes_append, codes_cons_of_filled filled] at encoded
    -- The line above which so many codes stand has the word at their count.
    obtain ⟨word, found, encodes⟩ := getElem?_of_forall₂ encoded
    exact ⟨word, found, encodes.translates natural (trimmed_codeOf line)⟩

theorem assemble_describes_loop :
    assemble "loop: ldi x, #1 ; once\n\nlast:\n  JZ\tloop\nend:".toList =
        .ok ⟨[0x5401, 0xA000], [("loop", 0), ("last", 1), ("end", 2)]⟩ ∧
      Describes (sourceLines "loop: ldi x, #1 ; once\n\nlast:\n  JZ\tloop\nend:".toList)
        ⟨[0x5401, 0xA000], [("loop", 0), ("last", 1), ("end", 2)]⟩ :=
  ⟨by decide +kernel, assemble_describes (by decide +kernel)⟩

end HarvardBench.Assembly
