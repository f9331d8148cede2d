import HarvardBench.Proofs.Assembly.Acceptance
import HarvardBench.Proofs.Assembly.SoleReference

/-! The word of one code.

A code without references has the word of the statement as it stands. A code with one
is a branch whose only operand is the label.
-/

set_option autoImplicit false

namespace HarvardBench.Assembly

open Text

section Words

variable {symbols : Symbols} {code resolved : List Char} {word : Word}

def operationOf? (code : List Char) : Option Opcode := opcodeNamed? (splitWord code).1

def operandsOf (code : List Char) : List Char := (splitWord code).2

theorem statementWord_congr {other : List Char}
    (same : splitWord (trim code) = splitWord (trim other)) :
    statementWord code = statementWord other := by
  unfold statementWord instruction
  rw [same]

theorem splitWord_resolved (natural : ∀ entry ∈ symbols, 0 ≤ entry.2) (trimmed : Trimmed code)
    (more : operandsOf code ≠ []) (success : resolveOperands symbols (operandsOf code) = .ok resolved) :
    splitWord (trim ((splitWord code).1 ++ ' ' :: resolved)) = ((splitWord code).1, resolved) := by
  have filled : code ≠ [] := by
    rintro rfl
    exact more rfl
  obtain ⟨neat, some⟩ := resolveOperands_trimmed natural (trimmed_splitWord trimmed) more success
  exact splitWord_joined (solid_splitWord code) (splitWord_ne_nil trimmed filled) neat some

theorem not_refers_nil (label : String) : ¬ Refers [] label := by
  rintro ⟨_, before, after, laidOut, standing⟩
  have named := standing.named
  have empty : label.toList = [] := by
    simp only [List.nil_eq, List.append_eq_nil_iff] at laidOut
    exact laidOut.2.1
  simp [empty, isName] at named

theorem encodes_of_no_reference (trimmed : Trimmed code)
    (none : ∀ label, ¬ Refers (operandsOf code) label) :
    Encodes symbols code word ↔ statementWord code = .ok word := by
  by_cases single : operandsOf code = []
  · simp [Encodes, resolveCode_of_single single]
  · have filled : code ≠ [] := by
      rintro rfl
      exact single rfl
    -- Resolving joins the word and the operands by one blank, which the statement does not see.
    have same : statementWord ((splitWord code).1 ++ ' ' :: operandsOf code) = statementWord code := by
      apply statementWord_congr
      rw [trim_of_trimmed trimmed]
      exact splitWord_joined (solid_splitWord code) (splitWord_ne_nil trimmed filled)
        (trimmed_splitWord trimmed) single
    have resolved : resolveOperands symbols (splitWord code).2 = .ok (splitWord code).2 :=
      resolveOperands_of_none none
    unfold operandsOf at same
    simp [Encodes, resolveCode_of_operands single, resolved, Except.map, same]

/-- A code with a reference is a branch to the label. -/
theorem Encodes.branch (natural : ∀ entry ∈ symbols, 0 ≤ entry.2) (trimmed : Trimmed code)
    (encodes : Encodes symbols code word) {label : String} (refers : Refers (operandsOf code) label) :
    operandsOf code = label.toList ∧ ∃ opcode build, ∃ address : Nat,
      operationOf? code = some opcode ∧ opcode.branching? = some build ∧
        symbols.get? label = some (address : Int) ∧ word = (build (BitVec.ofNat 12 address)).word := by
  have more : operandsOf code ≠ [] := by
    intro none
    exact not_refers_nil label (none ▸ refers)
  obtain ⟨resolvedCode, codeResolved, wordRead⟩ := encodes
  rw [resolveCode_of_operands more] at codeResolved
  obtain ⟨resolved, success, rfl⟩ := map_eq_ok_iff.mp codeResolved
  obtain ⟨found, statementRead, rfl⟩ := statementWord_eq_ok_iff.mp wordRead
  obtain ⟨opcode, rest, named, read, ended⟩ := instruction_eq_ok_iff.mp statementRead
  -- The resolved code is split as the code was, so its operation is that of the code.
  rw [splitWord_resolved natural trimmed more success] at named read
  obtain ⟨sole, build, address, branches, known, rfl⟩ :=
    branch_of_refers natural (trimmed_splitWord trimmed) success read ended refers
  exact ⟨sole, opcode, build, address, named, branches, known, rfl⟩

theorem encodes_branch {label : String} {opcode : Opcode} {build : BitVec 12 → Instruction} {address : Nat}
    (natural : ∀ entry ∈ symbols, 0 ≤ entry.2) (trimmed : Trimmed code)
    (sole : operandsOf code = label.toList) (refers : Refers (operandsOf code) label)
    (named : operationOf? code = some opcode) (branches : opcode.branching? = some build)
    (known : symbols.get? label = some (address : Int)) (short : address < decimalSpan) :
    Encodes symbols code (build (BitVec.ofNat 12 address)).word := by
  have more : operandsOf code ≠ [] := by
    intro none
    exact not_refers_nil label (none ▸ refers)
  have success : resolveOperands symbols (operandsOf code) = .ok (addressText address) := by
    rw [sole] at refers ⊢
    exact resolveOperands_label refers.isName refers.1 known
  -- The address is written as a program operand, which the reader of the branch takes whole.
  have read : (operands opcode).run (addressText address) =
      (.ok (build (BitVec.ofNat 12 address)), []) := by
    have whole := @run_branch build ['d'] [] address (.inr rfl) (by simp)
    rw [List.append_nil, if_pos short] at whole
    rw [operands_of_branching branches, addressText_ofNat, whole]
  refine ⟨(splitWord code).1 ++ ' ' :: addressText address, ?_, ?_⟩
  · rw [resolveCode_of_operands more]
    exact map_eq_ok_iff.mpr ⟨addressText address, success, rfl⟩
  · refine statementWord_eq_ok_iff.mpr ⟨_, instruction_eq_ok_iff.mpr ⟨opcode, [], ?_⟩, rfl⟩
    rw [splitWord_resolved natural trimmed more success]
    exact ⟨named, read, rfl⟩

end Words

end HarvardBench.Assembly
