import HarvardBench.Proofs.Assembly.Listing
import HarvardBench.Proofs.Assembly.Localization
import HarvardBench.Proofs.Assembly.Overlong

/-! Which texts are refused without a report.

Every text has a program or a diagnostic with its line, except one whose first statement that is
not read holds a numeral that is too long. Such a text is refused without a line, although a
numeral may have any number of digits by its grammar.
-/

set_option autoImplicit false

namespace HarvardBench.Assembly

open Text

/-- A text has a program, or a diagnostic that is placed at the line to blame. -/
def Contained (text : List Char) : Prop :=
  (∃ program, assemble text = .ok program) ∨
    ∃ diagnostic number, assemble text = .error (.reported diagnostic) ∧ Placed text diagnostic number

/-- All labels and references of a text are in order, and the first of its statements that is
not read has a numeral that is too long among its resolved operands. -/
inductive Overflows (text : List Char) : Prop where
  | statement {layout : Layout} {above line below : List _} {opcode : Opcode} {operands : List Char}
      (scanned : Layout.ofText text = .ok layout)
      (known : ∀ line ∈ sourceLines text, ∀ label, ¬ Undeclared (sourceLines text) line label)
      (split : sourceLines text = above ++ line :: below)
      (read : ∀ earlier ∈ above, codeOf earlier ≠ [] → ∃ word, Encodes layout.symbols (codeOf earlier) word)
      (named : operationOf? (codeOf line) = some opcode)
      (resolved : resolveOperands layout.symbols (operandsOf (codeOf line)) = .ok operands)
      (long : Grammar.Overlong opcode.format operands)

section Codes

variable {symbols : Symbols} {code : List Char}

theorem resolved_overlong_iff (natural : ∀ entry ∈ symbols, 0 ≤ entry.2) (trimmed : Trimmed code) :
    (∃ resolved, resolveCode symbols code = .ok resolved ∧ statementWord resolved = .error .numeralTooLong) ↔
      ∃ opcode operands, operationOf? code = some opcode ∧
        resolveOperands symbols (operandsOf code) = .ok operands ∧ Grammar.Overlong opcode.format operands := by
  by_cases single : operandsOf code = []
  · -- Without operands there is no number that could be too long.
    have empty : resolveOperands symbols (operandsOf code) = .ok [] := by
      rw [single]
      exact resolveOperands_of_none not_refers_nil
    have whole : splitWord (trim code) = ((splitWord code).1, []) := by
      rw [trim_of_trimmed trimmed]
      exact Prod.ext rfl single
    have none (format : Format) : ¬ Grammar.Overlong format [] := fun long => long.ne_nil rfl
    simp [resolveCode_of_single single, Grammar.statement_overlong_iff, empty, whole, none]
  · rw [resolveCode_of_operands single]
    constructor
    · rintro ⟨_, success, rejected⟩
      obtain ⟨operands, resolved, rfl⟩ := map_eq_ok_iff.mp success
      rw [Grammar.statement_overlong_iff, splitWord_resolved natural trimmed single resolved] at rejected
      obtain ⟨opcode, named, long⟩ := rejected
      exact ⟨opcode, operands, named, resolved, long⟩
    · rintro ⟨opcode, operands, named, resolved, long⟩
      refine ⟨_, map_eq_ok_iff.mpr ⟨operands, resolved, rfl⟩, ?_⟩
      rw [Grammar.statement_overlong_iff, splitWord_resolved natural trimmed single resolved]
      exact ⟨opcode, named, long⟩

end Codes

section Texts

variable {text : List Char} {layout : Layout}

theorem exists_resolved (scanned : Layout.ofText text = .ok layout)
    (known : ∀ line ∈ sourceLines text, ∀ label, ¬ Undeclared (sourceLines text) line label) :
    ∃ lines, layout.lines.mapM (fun line => line.resolve layout.symbols) = .ok lines := by
  cases resolved : layout.lines.mapM fun line => line.resolve layout.symbols with
  | ok lines => exact ⟨lines, rfl⟩
  | error failure =>
    obtain ⟨front, entry, back, split, _, failed⟩ := mapM_eq_error_iff.mp resolved
    rw [lines_of_layout scanned] at split
    obtain ⟨above, line, below, whole, rfl, rfl⟩ := exists_of_numbered split
    obtain ⟨problem, stuck, _⟩ := resolve_eq_error_iff.mp failed
    obtain ⟨label, refers, unknown, _⟩ := resolveCode_error stuck
    rw [keys_of_layout scanned] at unknown
    exact absurd ⟨refers, unknown⟩ (known line (whole ▸ List.mem_append_right _ List.mem_cons_self) label)

/-- A text is refused without a report exactly if it overflows. -/
theorem assemble_eq_tooLong_iff : assemble text = .error .numeralTooLong ↔ Overflows text := by
  constructor
  · intro refused
    obtain ⟨number, located⟩ := exists_locates refused
    cases located with
    | @label above line _ _ split scanned broken =>
      rw [extend_append, scanned] at broken
      obtain ⟨_, same, _⟩ := line_of_broken broken
      cases same
    | reference _ _ _ _ reported => cases reported
    | @statement above line _ layout code cause scanned known split read _ resolved rejected placed =>
      obtain rfl : cause = .numeralTooLong := by
        cases cause with
        | reported _ => cases placed
        | numeralTooLong => rfl
      obtain ⟨opcode, operands, named, resolved, long⟩ :=
        (resolved_overlong_iff (natural_of_layout scanned) (trimmed_codeOf line)).mp ⟨code, resolved, rejected⟩
      exact .statement scanned known split read named resolved long
  · rintro ⟨scanned, known, split, read, named, resolved, long⟩
    next layout above line below opcode operands =>
    obtain ⟨lines, success⟩ := exists_resolved scanned known
    refine assemble_eq_error_iff.mpr (.inr ⟨layout, scanned, .inr ⟨lines, success, ?_⟩⟩)
    obtain ⟨code, found, rejected⟩ :=
      (resolved_overlong_iff (natural_of_layout scanned) (trimmed_codeOf line)).mpr
        ⟨opcode, operands, named, resolved, long⟩
    -- An empty code has no operation.
    have filled : codeOf line ≠ [] := by
      intro empty
      rw [empty] at named
      cases named
    rw [statements_rejected_iff (mapM_eq_ok_iff.mp success), lines_of_layout scanned, split, numbered_append]
    refine ⟨numbered 1 above, _, _, rfl, ?_, filled, code, .numeralTooLong, found, rejected, rfl⟩
    intro entry own more
    obtain ⟨earlier, member, same⟩ := exists_numbered_iff.mp ⟨entry, own, rfl⟩
    rw [← same] at more ⊢
    exact read earlier member more

end Texts

/-- Every text is contained, unless it overflows. -/
theorem contained_iff (text : List Char) : Contained text ↔ ¬ Overflows text := by
  rw [← assemble_eq_tooLong_iff, Contained]
  cases outcome : assemble text with
  | ok program => simp
  | error failure =>
    cases failure with
    | numeralTooLong => simp
    | reported diagnostic =>
      obtain ⟨number, located⟩ := exists_locates outcome
      simpa using ⟨number, located.placed⟩

/-! ## Zeros in front -/

def zeros (count : Nat) : List Char := List.replicate count '0'

def jumpToZero (count : Nat) : List Char := "jmp".toList ++ ([' '] ++ ("$$".toList ++ zeros count))

theorem isPart_zeros (count : Nat) : IsPart ("$$".toList ++ zeros count) := by
  have sign : IsPart "$$".toList := by decide
  refine ⟨by simp, List.forall_mem_append.mpr ⟨sign.2, fun c member => ?_⟩⟩
  obtain rfl := List.eq_of_mem_replicate member
  decide

theorem isBare_jumpToZero (count : Nat) : IsBare (jumpToZero count) :=
  IsBare.joined (by decide) (isBare_of_isPart (isPart_zeros count)) (by simp)

theorem sourceLines_of_bare {text : List Char} (bare : IsBare text) : sourceLines text = [text] := by
  rw [sourceLines, lines, splitAtEach_of_not_mem (bare.unmarked '\n' (by simp)), List.map_singleton,
    uncommented_of_plain (bare.unmarked ';' (by simp))]

theorem splitWord_jumpToZero (count : Nat) :
    splitWord (jumpToZero count) = ("jmp".toList, "$$".toList ++ zeros count) := by
  have part := isPart_zeros count
  have split : splitWord (jumpToZero count) = ("jmp".toList, trimLeft ("$$".toList ++ zeros count)) :=
    splitWord_append (solid_of_isPart (by decide)) (by decide) (by simp)
  rwa [trimLeft_of_front (trimmed_of_isPart part).front] at split

theorem not_refers_zeros (count : Nat) (label : String) : ¬ Refers ("$$".toList ++ zeros count) label := by
  rintro ⟨_, before, after, laidOut, standing⟩
  have named := standing.named
  cases spelled : label.toList with
  | nil => simp [spelled, isName] at named
  | cons c rest =>
    simp only [spelled, isName, Bool.and_eq_true] at named
    have member : c ∈ "$$".toList ++ zeros count := by
      rw [laidOut, spelled]
      simp
    rcases List.mem_append.mp member with sign | zero
    · obtain rfl : c = '$' := by simpa using sign
      exact absurd named.1 (by decide)
    · obtain rfl := List.eq_of_mem_replicate zero
      exact absurd named.1 (by decide)

theorem tooLong_zeros {count : Nat} (long : decimalLimit < count) :
    Grammar.TooLong ['$', '$'] ("$$".toList ++ zeros count) := by
  have filled : zeros count ≠ [] := by
    rw [zeros, ← List.length_pos_iff, List.length_replicate]
    omega
  have digits : Grammar.Digits Radix.decimal.base (zeros count) (Radix.decimal.value (zeros count)) :=
    Grammar.digits_iff.mpr ⟨filled, fun c member => List.eq_of_mem_replicate member ▸ by decide, rfl⟩
  have written := @Grammar.TooLong.digits ['$', '$'] [] (zeros count) [] _ ⟨.none, digits, nofun⟩
    (by simpa [zeros] using long)
  simpa using written

/-- Zeros in front of a numeral count as digits, so enough of them overflow. -/
theorem overflows_jumpToZero {count : Nat} (long : decimalLimit < count) : Overflows (jumpToZero count) := by
  have bare := isBare_jumpToZero count
  have alone := sourceLines_of_bare bare
  have code := codeOf_of_bare bare
  have parts := splitWord_jumpToZero count
  have operands : operandsOf (codeOf (jumpToZero count)) = "$$".toList ++ zeros count := by
    rw [code, operandsOf, parts]
  have unlabelled : declared [jumpToZero count] = [] := by
    simp [declared, labelOf?, bare.unmarked ':' (by simp)]
  have scanned : Layout.ofText (jumpToZero count) = .ok (Layout.extended {} 1 [jumpToZero count]) := by
    rw [ofText_eq_ok_iff, alone, unlabelled, List.forall_mem_singleton]
    exact ⟨fun labelled => absurd labelled (bare.unmarked ':' (by simp)), List.nodup_nil, rfl⟩
  -- The digits refer to nothing, so only the length of the number can be wrong.
  have known : ∀ line ∈ sourceLines (jumpToZero count), ∀ label,
      ¬ Undeclared (sourceLines (jumpToZero count)) line label := by
    rw [alone, List.forall_mem_singleton]
    rintro label ⟨refers, _⟩
    rw [operands] at refers
    exact not_refers_zeros count label refers
  have named : operationOf? (codeOf (jumpToZero count)) = some .jmp := by
    have jump : opcodeNamed? "jmp".toList = some .jmp := by decide
    rw [code, operationOf?, parts, jump]
  have resolved : resolveOperands (Layout.extended {} 1 [jumpToZero count]).symbols
      (operandsOf (codeOf (jumpToZero count))) = .ok ("$$".toList ++ zeros count) := by
    rw [operands]
    exact resolveOperands_of_none (not_refers_zeros count)
  have split : sourceLines (jumpToZero count) = [] ++ jumpToZero count :: [] := alone
  exact .statement scanned known split (List.forall_mem_nil _) named resolved
    (@Grammar.Overlong.programAddress [] _ Grammar.gap_nil (tooLong_zeros long))

/-- Digits without end are no reason to refuse a numeral, and yet a jump to zero is refused. -/
theorem not_contained_zeros : ¬ ∀ text, Contained text := by
  intro all
  have refused := assemble_eq_tooLong_iff.mpr (@overflows_jumpToZero 4301 (by decide))
  rcases all (jumpToZero 4301) with ⟨program, accepted⟩ | ⟨diagnostic, number, reported, _⟩
  · rw [refused] at accepted
    cases accepted
  · rw [refused] at reported
    cases reported

end HarvardBench.Assembly
