import HarvardBench.Assembly.Program
import HarvardBench.Proofs.Assembly.Outline
import HarvardBench.Proofs.Assembly.Reading

/-! Which texts are accepted, and as which programs.

The passes over a text are put together here: a text is accepted exactly if its lines
are well labelled with different labels and every code has a word once its references
are resolved. No statement is a single character, so counting codes of more than one
character counts the statements.
-/

set_option autoImplicit false

namespace HarvardBench.Assembly

open Text

/-- No letter becomes the name of an operation, not even one with a longer upper case. -/
theorem opcodeNamed?_singleton (c : Char) : opcodeNamed? [c] = none := by
  have short {text : List Char} (single : text.length = 1) : Opcode.ofName? text = none := by
    have longer : ∀ opcode ∈ Opcode.all, opcode.name.toList.length ≠ 1 := by decide
    apply List.find?_eq_none.mpr
    intro opcode member same
    rw [beq_iff_eq] at same
    exact longer opcode member (same ▸ single)
  -- Some characters have several in upper case; none of these texts is the name of one.
  have expanded : ∀ entry ∈ upperExpansions, Opcode.ofName? (entry.2.map Char.ofNat) = none := by
    decide +kernel
  unfold opcodeNamed? upper
  rw [List.flatMap_singleton]
  unfold upperChar
  split
  · exact short rfl
  · split
    · next entry found => exact expanded entry (Array.mem_of_find?_eq_some found)
    · exact short rfl

/-- The word of a code once its references are resolved. -/
def Encodes (symbols : Symbols) (code : List Char) (word : Word) : Prop :=
  ∃ resolved, resolveCode symbols code = .ok resolved ∧ statementWord resolved = .ok word

section Codes

variable {symbols : Symbols} {code resolved : List Char} {word : Word}

theorem statementWord_eq_ok_iff :
    statementWord code = .ok word ↔ ∃ found, instruction code = .ok found ∧ found.word = word :=
  map_eq_ok_iff

theorem resolveCode_of_single (single : (splitWord code).2 = []) : resolveCode symbols code = .ok code := by
  unfold resolveCode
  split
  · rfl
  · next nonempty same => simp [same] at single; exact absurd single nonempty

theorem resolveCode_of_operands (more : (splitWord code).2 ≠ []) :
    resolveCode symbols code = (resolveOperands symbols (splitWord code).2).map fun resolved =>
      (splitWord code).1 ++ ' ' :: resolved := by
  unfold resolveCode
  split
  · next same => simp [same] at more
  · next same => simp [same]

theorem resolveCode_nil : resolveCode symbols [] = .ok [] := rfl

theorem resolveCode_ne_nil (success : resolveCode symbols code = .ok resolved) (filled : code ≠ []) :
    resolved ≠ [] := by
  by_cases single : (splitWord code).2 = []
  · rw [resolveCode_of_single single] at success
    exact Except.ok.inj success ▸ filled
  · rw [resolveCode_of_operands single] at success
    obtain ⟨_, _, rfl⟩ := map_eq_ok_iff.mp success
    simp

theorem Encodes.long (encodes : Encodes symbols code word) (trimmed : Trimmed code) (filled : code ≠ []) :
    1 < code.length := by
  match code, filled with
  | c :: d :: rest, _ => simp
  | [c], _ =>
    -- A single character has no operands, so it is read as it stands, and names no operation.
    exfalso
    have solid : ∀ e ∈ [c], isBlank e = false := by simpa using trimmed.front c rfl
    obtain ⟨resolved, success, read⟩ := encodes
    rw [resolveCode_of_single (by rw [splitWord_word solid])] at success
    obtain rfl := Except.ok.inj success
    obtain ⟨found, read, _⟩ := statementWord_eq_ok_iff.mp read
    obtain ⟨opcode, _, named, _⟩ := instruction_eq_ok_iff.mp read
    rw [trim_of_trimmed trimmed, splitWord_word solid, opcodeNamed?_singleton] at named
    simp at named

end Codes

/-! ## Whole texts -/

theorem resolve_eq_ok_iff {line resolved : Line} {symbols : Symbols} :
    line.resolve symbols = .ok resolved ↔
      ∃ code, resolveCode symbols line.code = .ok code ∧ resolved = { line with code } := by
  unfold Line.resolve
  cases resolveCode symbols line.code with
  | error problem => simp
  | ok code => simp [eq_comm]

theorem word_eq_ok_iff {line : Line} {word : Word} :
    line.word = .ok word ↔ statementWord line.code = .ok word := by
  unfold Line.word
  cases statementWord line.code <;> simp

theorem statements_resolved_iff {symbols : Symbols} {lines : List Line} {words : List Word} :
    (∃ resolved, List.Forall₂ (fun line next => line.resolve symbols = .ok next) lines resolved ∧
        List.Forall₂ (fun line word => line.word = .ok word) (statements resolved) words) ↔
      List.Forall₂ (Encodes symbols) ((lines.map Line.code).filter fun code => !code.isEmpty) words := by
  induction lines generalizing words with
  | nil => simp [statements]
  | cons line lines ih =>
    by_cases empty : line.code = []
    · -- An empty code stays empty and is no statement.
      rw [List.map_cons, List.filter_cons_of_neg (by simp [empty]), ← ih]
      constructor
      · rintro ⟨_, all, read⟩
        obtain ⟨_, resolved, here, later, rfl⟩ := List.forall₂_cons_left_iff.mp all
        obtain ⟨code, success, rfl⟩ := resolve_eq_ok_iff.mp here
        rw [empty, resolveCode_nil] at success
        obtain rfl := Except.ok.inj success
        exact ⟨_, later, read⟩
      · rintro ⟨resolved, later, read⟩
        have here : line.resolve symbols = .ok { line with code := [] } :=
          resolve_eq_ok_iff.mpr ⟨[], by rw [empty, resolveCode_nil], rfl⟩
        exact ⟨_, .cons here later, read⟩
    · -- A code that is not empty stays so, whatever it is resolved to.
      rw [List.map_cons, List.filter_cons_of_pos (by simp [empty]), List.forall₂_cons_left_iff]
      have kept {code : List Char} (success : resolveCode symbols line.code = .ok code)
          (rest : List Line) :
          statements ({ line with code } :: rest) = { line with code } :: statements rest := by
        simp [statements, resolveCode_ne_nil success empty]
      constructor
      · rintro ⟨_, all, read⟩
        obtain ⟨_, resolved, here, later, rfl⟩ := List.forall₂_cons_left_iff.mp all
        obtain ⟨code, success, rfl⟩ := resolve_eq_ok_iff.mp here
        rw [kept success] at read
        obtain ⟨word, rest, first, more, rfl⟩ := List.forall₂_cons_left_iff.mp read
        exact ⟨word, rest, ⟨code, success, word_eq_ok_iff.mp first⟩, ih.mp ⟨_, later, more⟩, rfl⟩
      · rintro ⟨word, rest, ⟨code, success, first⟩, more, rfl⟩
        obtain ⟨resolved, later, read⟩ := ih.mpr more
        refine ⟨_, .cons (resolve_eq_ok_iff.mpr ⟨code, success, rfl⟩) later, ?_⟩
        rw [kept success]
        exact .cons (word_eq_ok_iff.mpr first) read

theorem ofText_eq_ok_iff {text : List Char} {layout : Layout} :
    Layout.ofText text = .ok layout ↔
      (∀ line ∈ sourceLines text, WellLabelled line) ∧ (declared (sourceLines text)).Nodup ∧
        layout = Layout.extended {} 1 (sourceLines text) :=
  extend_eq_ok_iff List.nodup_nil

theorem map_code_numbered (number : Nat) (lines : List (List Char)) :
    (numbered number lines).map Line.code = lines.map codeOf := by
  induction lines generalizing number with
  | nil => rfl
  | cons line rest ih => simp [numbered, ih]

theorem addressesBy_congr {first second : List Char → Bool} {lines : List (List Char)}
    (same : ∀ line ∈ lines, first (codeOf line) = second (codeOf line)) (offset : Nat) :
    addressesBy first offset lines = addressesBy second offset lines := by
  induction lines generalizing offset with
  | nil => rfl
  | cons line rest ih =>
    rw [List.forall_mem_cons] at same
    rw [addressesBy, addressesBy, same.1, ih same.2]

theorem addressesBy_long {symbols : Symbols} {lines : List (List Char)} {words : List Word}
    (encoded : List.Forall₂ (Encodes symbols) (codes lines) words) :
    addressesBy (fun code => 1 < code.length) 0 lines = addresses lines := by
  refine addressesBy_congr ?_ 0
  intro line member
  by_cases filled : codeOf line = []
  · simp [filled]
  · have statement : codeOf line ∈ codes lines :=
      List.mem_filter.mpr ⟨List.mem_map_of_mem member, by simp [filled]⟩
    obtain ⟨word, _, encodes⟩ := exists_of_mem_forall₂ encoded statement
    simp [encodes.long (trimmed_codeOf line) filled, filled]

/-- A text is accepted if its lines are well labelled, no label is declared twice and each
of its codes has a word. -/
theorem assemble_eq_ok_iff {text : List Char} {program : Program} :
    assemble text = .ok program ↔
      (∀ line ∈ sourceLines text, WellLabelled line) ∧ (declared (sourceLines text)).Nodup ∧
        program.symbols = addresses (sourceLines text) ∧
        List.Forall₂ (Encodes program.symbols) (codes (sourceLines text)) program.words := by
  have stages : assemble text = .ok program ↔
      ∃ layout, Layout.ofText text = .ok layout ∧
        ∃ lines, layout.lines.mapM (fun line => line.resolve layout.symbols) = .ok lines ∧
          ∃ words, (statements lines).mapM Line.word = .ok words ∧ ⟨words, layout.symbols⟩ = program := by
    simp only [assemble, resolveText, bind_eq_ok_iff, pure, Except.pure, Except.ok.injEq]
    constructor
    · rintro ⟨_, ⟨layout, laidOut, lines, resolved, rfl⟩, words, read, made⟩
      exact ⟨layout, laidOut, lines, resolved, words, read, made⟩
    · rintro ⟨layout, laidOut, lines, resolved, words, read, made⟩
      exact ⟨_, ⟨layout, laidOut, lines, resolved, rfl⟩, words, read, made⟩
  -- Numbering the lines does not change their codes.
  have laidOutLines : (Layout.extended {} 1 (sourceLines text)).lines.map Line.code =
      (sourceLines text).map codeOf := map_code_numbered 1 (sourceLines text)
  rw [stages]
  constructor
  · rintro ⟨layout, laidOut, lines, resolved, words, read, rfl⟩
    obtain ⟨wellLabelled, distinct, rfl⟩ := ofText_eq_ok_iff.mp laidOut
    have encoded := statements_resolved_iff.mp
      ⟨lines, mapM_eq_ok_iff.mp resolved, mapM_eq_ok_iff.mp read⟩
    rw [laidOutLines] at encoded
    exact ⟨wellLabelled, distinct, addressesBy_long encoded, encoded⟩
  · rintro ⟨wellLabelled, distinct, table, encoded⟩
    have same : program.symbols = (Layout.extended {} 1 (sourceLines text)).symbols :=
      table.trans (addressesBy_long encoded).symm
    rw [same, codes, ← laidOutLines, ← statements_resolved_iff] at encoded
    obtain ⟨lines, resolved, read⟩ := encoded
    refine ⟨_, ofText_eq_ok_iff.mpr ⟨wellLabelled, distinct, rfl⟩, lines, mapM_eq_ok_iff.mpr resolved,
      program.words, mapM_eq_ok_iff.mpr read, ?_⟩
    rw [← same]

end HarvardBench.Assembly
