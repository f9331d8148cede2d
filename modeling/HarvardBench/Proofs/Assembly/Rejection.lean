import HarvardBench.Proofs.Assembly.Reading
import HarvardBench.Proofs.Failure

/-! What statements are rejected with.

A reader that fails says what it did not find, and leaves the line to be named by the caller.
Only a number can also fail without a report, when it has too many digits to be read or shown.
-/

set_option autoImplicit false

namespace HarvardBench.Assembly

open Text

def Failure.IsReport (failure : Failure) : Prop :=
  ∃ diagnostic, failure = .reported diagnostic ∧ diagnostic.line = none

/-- A failure that names no line yet; one for a number that is too long never does. -/
def Failure.Unplaced (failure : Failure) : Prop := failure.IsReport ∨ failure = .numeralTooLong

namespace Failure

theorem IsReport.unplaced {failure : Failure} (report : failure.IsReport) : failure.Unplaced := .inl report

theorem not_isReport_numeralTooLong : ¬ IsReport .numeralTooLong := by
  rintro ⟨_, same, _⟩
  cases same

end Failure

namespace Problem

variable {problem : Problem}

theorem failure_eq (short : problem.shown = []) : problem.failure = .reported (problem.diagnostic none) := by
  simp [failure, short]

theorem failureAt_eq (short : problem.shown = []) (line : Int) :
    problem.failureAt line = .reported (problem.diagnostic (some line)) := by
  rw [failureAt, failure_eq short]
  rfl

theorem isReport_failure (short : problem.shown = []) : problem.failure.IsReport :=
  ⟨_, failure_eq short, rfl⟩

theorem unplaced_failure (problem : Problem) : problem.failure.Unplaced := by
  unfold failure
  split
  · exact .inl ⟨_, rfl, rfl⟩
  · exact .inr rfl

end Problem

namespace Reader

variable {α β : Type}

/-- Every failure of a reader has a property. -/
def FailsWith (property : Failure → Prop) (reader : Reader α) : Prop :=
  ∀ ⦃cursor failure rest⦄, reader.run cursor = (.error failure, rest) → property failure

variable {property : Failure → Prop} {first : Reader α} {next : α → Reader β}

theorem run_bind_error {cursor rest : Cursor} {failure : Failure}
    (failed : run (first >>= next) cursor = (.error failure, rest)) :
    run first cursor = (.error failure, rest) ∨
      ∃ middle between, run first cursor = (.ok middle, between) ∧
        run (next middle) between = (.error failure, rest) := by
  rw [run_bind] at failed
  split at failed
  · next middle between same => exact .inr ⟨middle, between, same, failed⟩
  · next other between same =>
    obtain ⟨rfl, rfl⟩ := Prod.mk.inj failed |>.imp Except.error.inj id
    exact .inl same

theorem failsWith_pure (value : α) : FailsWith property (pure value : Reader α) := by
  intro cursor failure rest failed
  cases failed

theorem FailsWith.bind (front : FailsWith property first) (back : ∀ value, FailsWith property (next value)) :
    FailsWith property (first >>= next) := by
  intro cursor failure rest failed
  rcases run_bind_error failed with here | ⟨middle, between, _, later⟩
  · exact front here
  · exact back middle later

theorem FailsWith.ite {asked : Prop} [Decidable asked] {yes no : Reader α} (ifAsked : FailsWith property yes)
    (ifNot : FailsWith property no) : FailsWith property (if asked then yes else no) := by
  split
  · exact ifAsked
  · exact ifNot

theorem FailsWith.mono {wider : Failure → Prop} {reader : Reader α} (fails : FailsWith property reader)
    (implies : ∀ ⦃failure⦄, property failure → wider failure) : FailsWith wider reader :=
  fun _ _ _ failed => implies (fails failed)

theorem failsWith_of_succeeds {reader : Reader α} (succeeds : ∀ cursor, ∃ value, (reader.run cursor).1 = .ok value) :
    FailsWith property reader := by
  intro cursor failure rest failed
  obtain ⟨value, success⟩ := succeeds cursor
  rw [failed] at success
  cases success

theorem failsWith_refuse {problem : Problem} (holds : property problem.failure) :
    FailsWith property (refuse problem : Reader α) := by
  intro cursor failure rest failed
  obtain ⟨rfl, _⟩ := Prod.mk.inj failed |>.imp Except.error.inj id
  exact holds

theorem isReport_of_refuse {problem : Problem} {cursor rest : Cursor} {failure : Failure}
    (short : problem.shown = [])
    (failed : (refuse problem : Reader α) cursor = (.error failure, rest)) : failure.IsReport :=
  failsWith_refuse (Problem.isReport_failure short) failed

end Reader

open Reader Failure

/-! ## Readers without numbers -/

theorem fails_spaces {property : Failure → Prop} : FailsWith property spaces :=
  failsWith_of_succeeds fun _ => ⟨(), rfl⟩

theorem fails_atEnd {property : Failure → Prop} : FailsWith property atEnd :=
  failsWith_of_succeeds fun _ => ⟨_, rfl⟩

theorem fails_word {property : Failure → Prop} : FailsWith property word :=
  failsWith_of_succeeds fun _ => ⟨_, rfl⟩

theorem fails_radix {property : Failure → Prop} : FailsWith property radix := by
  refine failsWith_of_succeeds fun cursor => ?_
  unfold run radix
  split
  · exact ⟨_, rfl⟩
  · split <;> exact ⟨_, rfl⟩

theorem fails_comma : FailsWith IsReport comma := by
  intro cursor failure rest failed
  unfold run comma at failed
  split at failed
  · cases failed
  · exact isReport_of_refuse rfl failed

theorem fails_endOfStatement : FailsWith IsReport endOfStatement := by
  intro cursor failure rest failed
  unfold run endOfStatement at failed
  split at failed
  · cases failed
  · exact isReport_of_refuse rfl failed

theorem fails_register : FailsWith IsReport register := by
  intro cursor failure rest failed
  simp only [run, register] at failed
  split at failed
  · exact isReport_of_refuse rfl failed
  · split at failed
    · exact isReport_of_refuse rfl failed
    · split at failed
      · cases failed
      · exact isReport_of_refuse rfl failed

theorem failsWith_sigil {property : Failure → Prop} (sign : List Char)
    (refused : ∀ expected found, property (Problem.sigil expected found).failure) :
    FailsWith property (sigil sign) := by
  induction sign with
  | nil => exact failsWith_pure ()
  | cons expected sign ih =>
    intro cursor failure rest failed
    unfold run sigil at failed
    split at failed
    · split at failed
      · exact ih failed
      · exact failsWith_refuse (refused _ _) failed
    · exact failsWith_refuse (refused _ _) failed

theorem fails_sigil (sign : List Char) : FailsWith IsReport (sigil sign) :=
  failsWith_sigil sign fun _ _ => Problem.isReport_failure rfl

theorem fails_carryClause : FailsWith IsReport carryClause := by
  refine fails_atEnd.bind fun ended => ?_
  cases ended with
  | true => exact failsWith_pure false
  | false =>
    refine fails_comma.bind fun _ => fails_word.bind fun name => (failsWith_pure true).ite ?_
    intro cursor failure rest failed
    exact isReport_of_refuse rfl failed

theorem fails_flagsAfter (seen : Flags) : FailsWith IsReport (flagsAfter seen) := by
  intro cursor failure rest failed
  simp only [run] at failed
  fun_induction flagsAfter seen cursor with
  | case1 => exact isReport_of_refuse rfl failed
  | case2 => exact isReport_of_refuse rfl failed
  | case3 _ _ _ _ _ _ _ _ _ _ ih => exact ih failed
  | case4 => cases failed

theorem fails_registerPair : FailsWith IsReport registerPair :=
  fails_register.bind fun _ => fails_comma.bind fun _ => fails_register.bind fun _ => failsWith_pure _

theorem fails_chainedPair (build : Register → Register → Bool → Instruction) :
    FailsWith IsReport (chainedPair build) :=
  fails_registerPair.bind fun _ => fails_carryClause.bind fun _ => failsWith_pure _

/-! ## Numbers -/

theorem failsWith_digits {property : Failure → Prop} (base : Radix)
    (missing : ∀ found, property (Problem.digits found).failure) (long : property .numeralTooLong) :
    FailsWith property (digits base) := by
  intro cursor failure rest failed
  simp only [run, digits] at failed
  split at failed
  · exact failsWith_refuse (missing _) failed
  · split at failed
    · cases failed
    · obtain ⟨rfl, _⟩ := Prod.mk.inj failed |>.imp Except.error.inj id
      exact long

theorem failsWith_number {property : Failure → Prop} (sign : List Char)
    (refused : ∀ expected found, property (Problem.sigil expected found).failure)
    (missing : ∀ found, property (Problem.digits found).failure) (long : property .numeralTooLong) :
    FailsWith property (number sign) :=
  fails_spaces.bind fun _ => (failsWith_sigil sign refused).bind fun _ =>
    fails_radix.bind fun base => failsWith_digits base missing long

theorem fails_number (sign : List Char) : FailsWith Unplaced (number sign) :=
  failsWith_number sign (fun _ _ => Problem.unplaced_failure _) (fun _ => Problem.unplaced_failure _) (.inr rfl)

theorem fails_immediate : FailsWith Unplaced immediate :=
  (fails_number ['#']).bind fun value =>
    (failsWith_pure value).ite (failsWith_refuse (Problem.unplaced_failure _))

theorem fails_branch (build : BitVec 12 → Instruction) : FailsWith Unplaced (branch build) :=
  (fails_number ['$', '$']).bind fun _ => failsWith_pure _

theorem fails_transfer (build : Register → BitVec 10 → Instruction) : FailsWith Unplaced (transfer build) :=
  (fails_register.mono fun _ => IsReport.unplaced).bind fun _ =>
    (fails_comma.mono fun _ => IsReport.unplaced).bind fun _ =>
      (fails_number ['$']).bind fun _ => failsWith_pure _

theorem fails_operands (opcode : Opcode) : FailsWith Unplaced (operands opcode) := by
  cases opcode with
  | hlt | ret => exact failsWith_pure _
  | add | sub | cmp => exact (fails_chainedPair _).mono fun _ => IsReport.unplaced
  | jmp | jc | jz | call => exact fails_branch _
  | lod | str => exact fails_transfer _
  | nand =>
    exact (fails_registerPair.bind fun _ => failsWith_pure _).mono fun _ => IsReport.unplaced
  | shr => exact (fails_register.bind fun _ => failsWith_pure _).mono fun _ => IsReport.unplaced
  | stb => exact ((fails_flagsAfter {}).bind fun _ => failsWith_pure _).mono fun _ => IsReport.unplaced
  | clb => exact ((fails_flagsAfter {}).bind fun _ => failsWith_pure _).mono fun _ => IsReport.unplaced
  | ldi =>
    exact (fails_register.mono fun _ => IsReport.unplaced).bind fun _ =>
      (fails_comma.mono fun _ => IsReport.unplaced).bind fun _ =>
        fails_immediate.bind fun _ => failsWith_pure _

/-! ## Statements -/

section Statements

variable {code : List Char} {failure : Failure}

/-- A statement that is rejected names no operation, or its operands fail, or something stands
behind them. -/
theorem instruction_error (rejected : instruction code = .error failure) :
    failure.IsReport ∨
      ∃ opcode rest, opcodeNamed? (splitWord (trim code)).1 = some opcode ∧
        (operands opcode).run (splitWord (trim code)).2 = (.error failure, rest) := by
  unfold instruction at rejected
  generalize splitWord (trim code) = parts at rejected ⊢
  obtain ⟨name, text⟩ := parts
  dsimp only at rejected ⊢
  split at rejected
  · obtain rfl := Except.error.inj rejected
    exact .inl (Problem.isReport_failure rfl)
  · split at rejected
    · obtain rfl := Except.error.inj rejected
      exact .inl (Problem.isReport_failure rfl)
    · next opcode named =>
      generalize read : run _ text = outcome at rejected
      obtain ⟨_, rest⟩ := outcome
      dsimp only at rejected
      subst rejected
      -- What follows the operands is a fault that is reported, so another one is theirs.
      rcases run_bind_error read with here | ⟨found, between, _, later⟩
      · exact .inr ⟨opcode, rest, named, here⟩
      · exact .inl (fails_endOfStatement.bind (fun _ => failsWith_pure found) later)

theorem statementWord_error_iff : statementWord code = .error failure ↔ instruction code = .error failure :=
  map_eq_error_iff

theorem unplaced_of_rejected (rejected : statementWord code = .error failure) : failure.Unplaced := by
  rcases instruction_error (statementWord_error_iff.mp rejected) with report | ⟨opcode, rest, _, failed⟩
  · exact report.unplaced
  · exact fails_operands opcode failed

end Statements

end HarvardBench.Assembly
