import HarvardBench.Proofs.Assembly.Addressing
import HarvardBench.Proofs.Assembly.Rejection

/-! At which line a text is refused, and why.

The labels of all lines come first, then the references of all lines, then the statements. Each
of the three passes stops at the first line that it cannot take, so a line is named only if
every line passes what comes before.
-/

set_option autoImplicit false

namespace HarvardBench.Assembly

open Text

def Undeclared (lines : List (List Char)) (line : List Char) (label : String) : Prop :=
  Refers (operandsOf (codeOf line)) label ∧ label ∉ declared lines

/-- The line of a text, counted from one, at which it is refused, with the failure. -/
inductive Locates (text : List Char) (failure : Failure) : Nat → Prop where
  | label {above line below : List _} {layout : Layout} (split : sourceLines text = above ++ line :: below)
      (scanned : Layout.extend {} 1 above = .ok layout)
      (broken : Layout.extend {} 1 (above ++ [line]) = .error failure) : Locates text failure (above.length + 1)
  | reference {above line below : List _} {layout : Layout} {label : String}
      (scanned : Layout.ofText text = .ok layout) (split : sourceLines text = above ++ line :: below)
      (known : ∀ earlier ∈ above, ∀ label, ¬ Undeclared (sourceLines text) earlier label)
      (undeclared : Undeclared (sourceLines text) line label)
      (reported : failure = .reported ((Problem.labelUnknown label).diagnostic (some (above.length + 1 : Nat)))) :
      Locates text failure (above.length + 1)
  | statement {above line below : List _} {layout : Layout} {code : List Char} {cause : Failure}
      (scanned : Layout.ofText text = .ok layout)
      (known : ∀ line ∈ sourceLines text, ∀ label, ¬ Undeclared (sourceLines text) line label)
      (split : sourceLines text = above ++ line :: below)
      (read : ∀ earlier ∈ above, codeOf earlier ≠ [] → ∃ word, Encodes layout.symbols (codeOf earlier) word)
      (filled : codeOf line ≠ []) (resolved : resolveCode layout.symbols (codeOf line) = .ok code)
      (rejected : statementWord code = .error cause)
      (placed : failure = cause.atLine (above.length + 1 : Nat)) : Locates text failure (above.length + 1)

/-! ## Labels -/

section Labels

variable {layout : Layout} {number : Nat} {failure : Failure}

theorem extend_append (layout : Layout) (number : Nat) (front back : List (List Char)) :
    layout.extend number (front ++ back) =
      layout.extend number front >>= fun middle => middle.extend (number + front.length) back := by
  induction front generalizing layout number with
  | nil => rfl
  | cons text front ih =>
    simp only [List.cons_append, Layout.extend, List.length_cons, bind_assoc, ih, Nat.add_assoc,
      Nat.add_comm 1]

theorem exists_broken_line {lines : List (List Char)} (failed : layout.extend number lines = .error failure) :
    ∃ above line below middle, lines = above ++ line :: below ∧ layout.extend number above = .ok middle ∧
      middle.extend (number + above.length) [line] = .error failure := by
  -- The scan goes from line to line, so the first line that fails alone is the one that is broken.
  induction lines generalizing layout number with
  | nil => cases failed
  | cons text rest ih =>
    cases here : layout.extend number [text] with
    | error other =>
      have whole := extend_append layout number [text] rest
      rw [here] at whole
      rw [← List.singleton_append, whole] at failed
      obtain rfl := Except.error.inj failed
      exact ⟨[], text, rest, layout, rfl, rfl, here⟩
    | ok next =>
      have whole := extend_append layout number [text] rest
      rw [here] at whole
      rw [← List.singleton_append, whole] at failed
      obtain ⟨above, line, below, middle, rfl, scanned, broken⟩ := ih failed
      refine ⟨text :: above, line, below, middle, rfl, ?_, ?_⟩
      · rw [← List.singleton_append, extend_append, here]
        exact scanned
      · rwa [List.length_cons, Nat.add_comm above.length, ← Nat.add_assoc]

theorem shown_of_labelProblem {label code : List Char} {problem : Problem}
    (wrong : Line.labelProblem? label code = some problem) : problem.shown = [] := by
  unfold Line.labelProblem? at wrong
  split at wrong
  · exact Option.some.inj wrong ▸ rfl
  · split at wrong
    · exact Option.some.inj wrong ▸ rfl
    · split at wrong
      · exact Option.some.inj wrong ▸ rfl
      · cases wrong

theorem line_of_broken {text : List Char} (broken : layout.extend number [text] = .error failure) :
    ∃ diagnostic, failure = .reported diagnostic ∧ diagnostic.line = some (number : Int) := by
  have placed {problem : Problem} (short : problem.shown = []) :
      ∃ diagnostic, problem.failureAt number = .reported diagnostic ∧ diagnostic.line = some (number : Int) :=
    ⟨_, Problem.failureAt_eq short number, rfl⟩
  simp only [Layout.extend, bind_eq_error_iff, reduceCtorEq, and_false, exists_false, or_false] at broken
  -- Parsing finds what is wrong with the label alone, adding the line that it was declared before.
  rcases broken with unparsed | ⟨line, parsed, refused⟩
  · unfold Line.parse at unparsed
    dsimp only at unparsed
    split at unparsed
    · cases unparsed
    · split at unparsed
      · next problem wrong =>
        obtain rfl := Except.error.inj unparsed
        exact placed (shown_of_labelProblem wrong)
      · cases unparsed
  · obtain ⟨_, rfl⟩ := parse_eq_ok_iff.mp parsed
    unfold Layout.add Layout.declare at refused
    rw [map_eq_error_iff] at refused
    split at refused
    · cases refused
    · split at refused
      · obtain rfl := Except.error.inj refused
        exact placed rfl
      · cases refused

end Labels

/-! ## References -/

section References

variable {symbols : Symbols} {code resolved : List Char} {problem : Problem}

theorem resolvePieces_error {pieces : List Piece} (failed : resolvePieces symbols pieces = .error problem) :
    ∃ piece ∈ pieces, ∃ label, piece.reference? = some label ∧ symbols.get? label = none ∧
      problem = .labelUnknown label := by
  induction pieces with
  | nil => cases failed
  | cons piece rest ih =>
    simp only [resolvePieces, bind_eq_error_iff] at failed
    rcases failed with here | ⟨_, _, later | ⟨_, _, done⟩⟩
    · unfold Piece.resolve at here
      split at here
      · cases here
      · next label refers =>
        split at here
        · cases here
        · next unknown =>
          exact ⟨piece, List.mem_cons_self, label, refers, unknown, (Except.error.inj here).symm⟩
    · obtain ⟨other, member, found⟩ := ih later
      exact ⟨other, List.mem_cons_of_mem piece member, found⟩
    · cases done

theorem resolveCode_error (failed : resolveCode symbols code = .error problem) :
    ∃ label, Refers (operandsOf code) label ∧ label ∉ symbols.keys ∧ problem = .labelUnknown label := by
  by_cases single : (splitWord code).2 = []
  · rw [resolveCode_of_single single] at failed
    cases failed
  · rw [resolveCode_of_operands single, map_eq_error_iff] at failed
    obtain ⟨piece, member, label, refers, unknown, same⟩ := resolvePieces_error failed
    exact ⟨label, refers_iff.mpr ⟨piece, member, refers⟩, Table.get?_eq_none_iff.mp unknown, same⟩

theorem mem_keys_of_resolved (success : resolveCode symbols code = .ok resolved) {label : String}
    (refers : Refers (operandsOf code) label) : label ∈ symbols.keys := by
  have more : (splitWord code).2 ≠ [] := by
    intro none
    exact not_refers_nil label (none ▸ refers)
  rw [resolveCode_of_operands more] at success
  obtain ⟨_, success, _⟩ := map_eq_ok_iff.mp success
  obtain ⟨piece, member, refers⟩ := refers_iff.mp refers
  obtain ⟨front, back, split⟩ := List.append_of_mem member
  unfold resolveOperands at success
  change Piece.split false (splitWord code).2 = _ at split
  rw [split] at success
  obtain ⟨_, _, _, later, _⟩ := resolvePieces_append_ok.mp success
  obtain ⟨_, _, read, _, _⟩ := resolvePieces_cons_ok.mp later
  obtain ⟨address, known, _⟩ := (Piece.resolve_eq_ok_iff refers).mp read
  by_contra unknown
  rw [Table.get?_eq_none_iff.mpr unknown] at known
  cases known

theorem resolve_eq_error_iff {line : Line} {failure : Failure} :
    line.resolve symbols = .error failure ↔
      ∃ problem, resolveCode symbols line.code = .error problem ∧ failure = problem.failureAt line.number := by
  unfold Line.resolve
  cases resolveCode symbols line.code with
  | error problem => simp [eq_comm]
  | ok code => simp

end References

/-! ## Statements -/

section Statements

variable {symbols : Symbols} {failure : Failure}

theorem word_eq_error_iff {line : Line} :
    line.word = .error failure ↔
      ∃ cause, statementWord line.code = .error cause ∧ failure = cause.atLine line.number := by
  unfold Line.word
  cases statementWord line.code with
  | error cause => simp [eq_comm]
  | ok word => simp

/-- The reading of resolved lines fails at the first statement that is rejected. -/
theorem statements_rejected_iff {lines resolved : List Line}
    (success : List.Forall₂ (fun line next => line.resolve symbols = .ok next) lines resolved) :
    (statements resolved).mapM Line.word = .error failure ↔
      ∃ above line below, lines = above ++ line :: below ∧
        ((∀ earlier ∈ above, earlier.code ≠ [] → ∃ word, Encodes symbols earlier.code word) ∧ line.code ≠ [] ∧
          ∃ code cause, resolveCode symbols line.code = .ok code ∧ statementWord code = .error cause ∧
            failure = cause.atLine line.number) := by
  induction success with
  | nil => simp [statements, pure, Except.pure]
  | @cons line next lines resolved here _ ih =>
    obtain ⟨code, found, rfl⟩ := resolve_eq_ok_iff.mp here
    rw [exists_split_cons_iff]
    simp only [List.not_mem_nil, false_implies, implies_true, true_and, List.forall_mem_cons, found, Except.ok.injEq]
    by_cases empty : line.code = []
    · -- A line without code is no statement, and is passed over.
      rw [empty, resolveCode_nil] at found
      obtain rfl := Except.ok.inj found
      simpa [empty, statements] using ih
    · have kept : statements ({ line with code } :: resolved) = { line with code } :: statements resolved := by
        simp [statements, resolveCode_ne_nil found empty]
      have encodes : (∃ word, Encodes symbols line.code word) ↔ ∃ word, statementWord code = .ok word := by
        simp [Encodes, found]
      have later : (∃ word, ({ line with code } : Line).word = .ok word ∧
          ((statements resolved).mapM Line.word >>= fun words => pure (word :: words)) = .error failure) ↔
          (∃ word, Encodes symbols line.code word) ∧ (statements resolved).mapM Line.word = .error failure := by
        simp [bind_eq_error_iff, pure, Except.pure, encodes, word_eq_ok_iff]
      rw [kept, List.mapM_cons, bind_eq_error_iff, later, ih, word_eq_error_iff]
      refine or_congr ?_ ?_
      · simp [empty]
      · constructor
        · rintro ⟨first, above, other, below, split, earlier, rejected⟩
          exact ⟨above, other, below, split, ⟨fun _ => first, earlier⟩, rejected⟩
        · rintro ⟨above, other, below, split, ⟨first, earlier⟩, rejected⟩
          exact ⟨first empty, above, other, below, split, earlier, rejected⟩

end Statements

/-! ## Whole texts -/

theorem exists_of_numbered {number : Nat} {lines : List (List Char)} {front back : List Line} {entry : Line}
    (split : numbered number lines = front ++ entry :: back) :
    ∃ above line below, lines = above ++ line :: below ∧ front = numbered number above ∧
      entry = ⟨number + above.length, labelOf? line, codeOf line⟩ := by
  induction lines generalizing number front with
  | nil => simp [numbered] at split
  | cons line rest ih =>
    cases front with
    | nil =>
      obtain ⟨rfl, _⟩ := List.cons.inj split
      exact ⟨[], line, rest, rfl, rfl, rfl⟩
    | cons first front =>
      obtain ⟨rfl, later⟩ := List.cons.inj split
      obtain ⟨above, other, below, rfl, rfl, rfl⟩ := ih later
      refine ⟨line :: above, other, below, rfl, rfl, ?_⟩
      rw [List.length_cons, Nat.add_comm above.length, ← Nat.add_assoc]

theorem numbered_append (number : Nat) (above below : List (List Char)) :
    numbered number (above ++ below) = numbered number above ++ numbered (number + above.length) below := by
  induction above generalizing number with
  | nil => rfl
  | cons line above ih =>
    simp only [List.cons_append, numbered, ih, List.length_cons, Nat.add_assoc, Nat.add_comm 1]

theorem exists_numbered_iff {number : Nat} {lines : List (List Char)} {code : List Char} :
    (∃ entry ∈ numbered number lines, entry.code = code) ↔ ∃ line ∈ lines, codeOf line = code := by
  rw [← List.mem_map, ← List.mem_map, map_code_numbered]

theorem assemble_eq_error_iff {text : List Char} {failure : Failure} :
    assemble text = .error failure ↔
      Layout.ofText text = .error failure ∨
        ∃ layout, Layout.ofText text = .ok layout ∧
          (layout.lines.mapM (fun line => line.resolve layout.symbols) = .error failure ∨
            ∃ lines, layout.lines.mapM (fun line => line.resolve layout.symbols) = .ok lines ∧
              (statements lines).mapM Line.word = .error failure) := by
  unfold assemble resolveText
  cases Layout.ofText text with
  | error other => simp [bind, Except.bind]
  | ok layout =>
    cases resolved : layout.lines.mapM fun line => line.resolve layout.symbols with
    | error other => simp [bind, Except.bind, resolved]
    | ok lines =>
      cases read : (statements lines).mapM Line.word with
      | error other => simp [bind, Except.bind, resolved, read, pure, Except.pure]
      | ok words => simp [bind, Except.bind, resolved, read, pure, Except.pure]

section Texts

variable {text : List Char} {layout : Layout} {failure : Failure}

theorem lines_of_layout (scanned : Layout.ofText text = .ok layout) :
    layout.lines = numbered 1 (sourceLines text) := by
  obtain ⟨_, _, rfl⟩ := ofText_eq_ok_iff.mp scanned
  rfl

theorem keys_of_layout (scanned : Layout.ofText text = .ok layout) :
    layout.symbols.keys = declared (sourceLines text) := by
  obtain ⟨_, _, rfl⟩ := ofText_eq_ok_iff.mp scanned
  exact keys_addressesBy (sourceLines text)

theorem natural_of_layout (scanned : Layout.ofText text = .ok layout) : ∀ entry ∈ layout.symbols, 0 ≤ entry.2 := by
  obtain ⟨_, _, rfl⟩ := ofText_eq_ok_iff.mp scanned
  exact fun _ member => (bounds_addressesBy member).1

theorem known_of_resolved (scanned : Layout.ofText text = .ok layout) {lines : List (List Char)} {number : Nat}
    (resolved : ∀ entry ∈ numbered number lines, ∃ next, entry.resolve layout.symbols = .ok next) :
    ∀ line ∈ lines, ∀ label, ¬ Undeclared (sourceLines text) line label := by
  rintro line member label ⟨refers, unknown⟩
  obtain ⟨entry, found, same⟩ := (@exists_numbered_iff number lines _).mpr ⟨line, member, rfl⟩
  obtain ⟨next, success⟩ := resolved entry found
  obtain ⟨code, success, _⟩ := resolve_eq_ok_iff.mp success
  rw [same] at success
  rw [← keys_of_layout scanned] at unknown
  exact unknown (mem_keys_of_resolved success refers)

theorem exists_locates (refused : assemble text = .error failure) : ∃ number, Locates text failure number := by
  -- The three passes fail one after another, and each only where those before it have passed.
  rcases assemble_eq_error_iff.mp refused with broken | ⟨layout, scanned, unresolved | ⟨lines, resolved, rejected⟩⟩
  · obtain ⟨above, line, below, middle, split, scanned, broken⟩ := exists_broken_line broken
    refine ⟨_, .label split scanned ?_⟩
    rw [extend_append, scanned]
    exact broken
  · obtain ⟨front, entry, back, split, earlier, failed⟩ := mapM_eq_error_iff.mp unresolved
    rw [lines_of_layout scanned] at split
    obtain ⟨above, line, below, whole, rfl, rfl⟩ := exists_of_numbered split
    obtain ⟨problem, stuck, rfl⟩ := resolve_eq_error_iff.mp failed
    obtain ⟨label, refers, unknown, rfl⟩ := resolveCode_error stuck
    rw [keys_of_layout scanned] at unknown
    refine ⟨_, .reference scanned whole (known_of_resolved scanned earlier) ⟨refers, unknown⟩ ?_⟩
    rw [Problem.failureAt_eq rfl, Nat.add_comm]
  · have success := mapM_eq_ok_iff.mp resolved
    obtain ⟨front, entry, back, split, earlier, filled, code, cause, found, fails, rfl⟩ :=
      (statements_rejected_iff success).mp rejected
    rw [lines_of_layout scanned] at split success
    obtain ⟨above, line, below, whole, rfl, rfl⟩ := exists_of_numbered split
    have known := known_of_resolved scanned fun entry member =>
      let ⟨next, _, done⟩ := exists_of_mem_forall₂ success member
      ⟨next, done⟩
    refine ⟨_, .statement scanned known whole ?_ filled found fails (by rw [Nat.add_comm])⟩
    intro line member more
    obtain ⟨entry, own, same⟩ := (@exists_numbered_iff 1 above _).mpr ⟨line, member, rfl⟩
    rw [← same] at more ⊢
    exact earlier entry own more

end Texts

/-- A diagnostic is placed at a line of the text, and shows its number. -/
structure Placed (text : List Char) (diagnostic : Diagnostic) (number : Nat) : Prop where
  first : 1 ≤ number
  last : number ≤ text.count '\n' + 1
  line : diagnostic.line = some (number : Int)
  message : diagnostic.message = s!"Line {number}: {diagnostic.text}"
  cause : Locates text (.reported diagnostic) number

theorem length_sourceLines (text : List Char) : (sourceLines text).length = text.count '\n' + 1 := by
  rw [sourceLines, List.length_map, lines]
  induction text with
  | nil => rfl
  | cons c rest ih =>
    obtain ⟨part, parts, same⟩ := List.exists_cons_of_ne_nil (splitAtEach_ne_nil '\n' rest)
    rw [same, List.length_cons, Nat.add_right_cancel_iff] at ih
    by_cases ends : c = '\n' <;> simp [splitAtEach, same, ends, ih]

theorem Locates.placed {text : List Char} {diagnostic : Diagnostic} {number : Nat}
    (located : Locates text (.reported diagnostic) number) : Placed text diagnostic number := by
  have within {above line below : List _} (split : sourceLines text = above ++ line :: below) :
      above.length + 1 ≤ text.count '\n' + 1 := by
    rw [← length_sourceLines, split, List.length_append, List.length_cons]
    omega
  have line : diagnostic.line = some (number : Int) ∧ 1 ≤ number ∧ number ≤ text.count '\n' + 1 := by
    cases located with
    | @label above line _ _ split scanned broken =>
      rw [extend_append, scanned] at broken
      obtain ⟨_, same, named⟩ := line_of_broken broken
      obtain rfl := Failure.reported.inj same
      exact ⟨named.trans (by rw [Nat.add_comm]), by omega, within split⟩
    | reference _ split _ _ reported =>
      obtain rfl := Failure.reported.inj reported
      exact ⟨rfl, by omega, within split⟩
    | statement _ _ split _ _ _ rejected placed =>
      rcases unplaced_of_rejected rejected with ⟨cause, rfl, unplaced⟩ | rfl
      · obtain rfl := Failure.reported.inj placed
        exact ⟨by simp [Diagnostic.atLine, unplaced], by omega, within split⟩
      · cases placed
  refine ⟨line.2.1, line.2.2, line.1, ?_, located⟩
  rw [Diagnostic.message, line.1]
  rfl

/-- A diagnostic names the line that is to blame: the first at which the labels break, else the
first with an unknown label, else the first whose statement is rejected. -/
theorem assemble_blames {text : List Char} {diagnostic : Diagnostic}
    (refused : assemble text = .error (.reported diagnostic)) : ∃ number, Placed text diagnostic number := by
  obtain ⟨number, located⟩ := exists_locates refused
  exact ⟨number, located.placed⟩

theorem assemble_blames_fourth :
    assemble "a: jmp b ; go\n\n c:\n  ldi x, #256\nb: add x\n".toList =
        .error (.reported ⟨.range, "Value must be in range 0..255, received 256", some 4⟩) ∧
      ∃ number, Placed "a: jmp b ; go\n\n c:\n  ldi x, #256\nb: add x\n".toList
        ⟨.range, "Value must be in range 0..255, received 256", some 4⟩ number :=
  ⟨by decide +kernel, assemble_blames (by decide +kernel)⟩

end HarvardBench.Assembly
