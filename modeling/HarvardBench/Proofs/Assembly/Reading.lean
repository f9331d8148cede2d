import HarvardBench.Assembly.Statement
import HarvardBench.Proofs.Text.Decimal
import HarvardBench.Proofs.Text.Trimming

/-! What operand readers take off a text.

Two views of a reader are kept apart. The first counts dollar signs: a success takes
a number of them that depends on the operation only, which tells program addresses
from all other operands. The second runs a reader on text that is written out.
-/

set_option autoImplicit false

namespace HarvardBench.Assembly

open Text

namespace Reader

variable {α β : Type}

/-- A success takes exactly so many dollar signs off the text. -/
def TakesSigns (reader : Reader α) (signs : Nat) : Prop :=
  ∀ ⦃cursor value rest⦄, reader.run cursor = (.ok value, rest) →
    cursor.count '$' = signs + rest.count '$'

theorem run_bind_ok {first : Reader α} {next : α → Reader β} {cursor rest : Cursor} {value : β}
    (success : run (first >>= next) cursor = (.ok value, rest)) :
    ∃ middle between, run first cursor = (.ok middle, between) ∧
      run (next middle) between = (.ok value, rest) := by
  rw [run_bind] at success
  split at success
  · next middle between same => exact ⟨middle, between, same, success⟩
  · simp at success

theorem run_bind_of_ok {first : Reader α} {cursor between : Cursor} {middle : α}
    (success : run first cursor = (.ok middle, between)) (next : α → Reader β) :
    run (first >>= next) cursor = run (next middle) between := by
  rw [run_bind, success]

theorem takesSigns_pure (value : α) : TakesSigns (pure value) 0 := by
  intro cursor found rest success
  simp only [run_pure, Prod.mk.injEq] at success
  simp [success.2]

theorem TakesSigns.bind {first : Reader α} {next : α → Reader β} {signs more : Nat}
    (front : TakesSigns first signs) (back : ∀ value, TakesSigns (next value) more) :
    TakesSigns (first >>= next) (signs + more) := by
  intro cursor value rest success
  obtain ⟨middle, between, read, readMore⟩ := run_bind_ok success
  rw [front read, back middle readMore, Nat.add_assoc]

theorem TakesSigns.bind_left {first : Reader α} {next : α → Reader β} {signs : Nat}
    (front : TakesSigns first signs) (back : ∀ value, TakesSigns (next value) 0) :
    TakesSigns (first >>= next) signs := front.bind back

theorem TakesSigns.bind_right {first : Reader α} {next : α → Reader β} {signs : Nat}
    (front : TakesSigns first 0) (back : ∀ value, TakesSigns (next value) signs) :
    TakesSigns (first >>= next) signs := by
  have both := front.bind back
  rwa [Nat.zero_add] at both

theorem TakesSigns.ite {asked : Prop} [Decidable asked] {yes no : Reader α} {signs : Nat}
    (ifAsked : TakesSigns yes signs) (ifNot : TakesSigns no signs) :
    TakesSigns (if asked then yes else no) signs := by
  split
  · exact ifAsked
  · exact ifNot

theorem takesSigns_refuse (problem : Problem) (signs : Nat) :
    TakesSigns (refuse problem : Reader α) signs := by
  intro cursor value rest success
  simp [run, refuse] at success

end Reader

open Reader

theorem count_dropWhile {p : Char → Bool} (skips : p '$' = false) (text : List Char) :
    (text.dropWhile p).count '$' = text.count '$' := by
  -- What is dropped satisfies the test, which a dollar sign does not.
  have none : (text.takeWhile p).count '$' = 0 := by
    rw [List.count_eq_zero]
    intro member
    have := List.mem_takeWhile_imp member
    simp [skips] at this
  conv => rhs; rw [← List.takeWhile_append_dropWhile (p := p) (l := text)]
  rw [List.count_append, none, Nat.zero_add]

theorem count_skipSpaces (cursor : Cursor) : (skipSpaces cursor).count '$' = cursor.count '$' :=
  count_dropWhile (by decide) cursor

theorem count_afterWord (cursor : Cursor) :
    (cursor.dropWhile isWordChar).count '$' = cursor.count '$' :=
  count_dropWhile (by decide) cursor

theorem takesSigns_spaces : TakesSigns spaces 0 := by
  intro cursor value rest success
  simp only [run, spaces, Prod.mk.injEq] at success
  rw [← success.2, count_skipSpaces, Nat.zero_add]

theorem takesSigns_atEnd : TakesSigns atEnd 0 := by
  intro cursor value rest success
  simp only [run, atEnd, Prod.mk.injEq] at success
  rw [← success.2, count_skipSpaces, Nat.zero_add]

theorem takesSigns_word : TakesSigns word 0 := by
  intro cursor value rest success
  simp only [run, word, Prod.mk.injEq] at success
  rw [← success.2, count_afterWord, Nat.zero_add]

theorem takesSigns_comma : TakesSigns comma 0 := by
  intro cursor value rest success
  unfold run comma at success
  split at success
  · next more same =>
    simp only [Prod.mk.injEq] at success
    rw [← success.2, count_skipSpaces, ← count_skipSpaces cursor, same]
    simp
  · simp [refuse] at success

theorem takesSigns_register : TakesSigns register 0 := by
  intro cursor value rest success
  simp only [run, register] at success
  split at success
  · simp [refuse] at success
  · split at success
    · simp [refuse] at success
    · split at success
      · simp only [Prod.mk.injEq] at success
        rw [← success.2, count_afterWord, count_skipSpaces, Nat.zero_add]
      · simp [refuse] at success

theorem takesSigns_sigil (sign : List Char) : TakesSigns (sigil sign) (sign.count '$') := by
  induction sign with
  | nil => exact takesSigns_pure ()
  | cons expected more ih =>
    intro cursor value rest success
    cases cursor with
    | nil => simp [run, sigil, refuse] at success
    | cons c cursor =>
      simp only [run, sigil] at success
      split at success
      · next same =>
        rw [same, List.count_cons, List.count_cons, ih success]
        omega
      · simp [refuse] at success

theorem takesSigns_radix : TakesSigns radix 0 := by
  intro cursor value rest success
  unfold run radix at success
  split at success
  · simp only [Prod.mk.injEq] at success
    simp [← success.2]
  · next c tail =>
    split at success
    · next found marker =>
      simp only [Prod.mk.injEq] at success
      -- A letter of a radix is no dollar sign, so skipping it keeps the count.
      have different : c ≠ '$' := by
        rintro rfl
        simp [show Radix.ofMarker? '$' = none from rfl] at marker
      rw [← success.2, List.count_cons_of_ne different, Nat.zero_add]
    · simp only [Prod.mk.injEq] at success
      simp [← success.2]

theorem takesSigns_digits (base : Radix) : TakesSigns (digits base) 0 := by
  have skips : base.isDigit '$' = false := by cases base <;> rfl
  intro cursor value rest success
  simp only [run, digits] at success
  split at success
  · simp [refuse] at success
  · split at success
    · simp only [Prod.mk.injEq] at success
      rw [← success.2, count_dropWhile skips, Nat.zero_add]
    · simp at success

theorem takesSigns_number (sign : List Char) : TakesSigns (number sign) (sign.count '$') :=
  takesSigns_spaces.bind_right fun _ => (takesSigns_sigil sign).bind_left fun _ =>
    takesSigns_radix.bind_left takesSigns_digits

theorem takesSigns_immediate : TakesSigns immediate 0 := by
  refine (takesSigns_number ['#']).bind_left fun value => ?_
  exact (takesSigns_pure value).ite (takesSigns_refuse _ _)

theorem takesSigns_carryClause : TakesSigns carryClause 0 := by
  refine takesSigns_atEnd.bind_left fun ended => ?_
  cases ended with
  | true => exact takesSigns_pure false
  | false =>
    refine takesSigns_comma.bind_left fun _ => takesSigns_word.bind_left fun name => ?_
    refine (takesSigns_pure true).ite ?_
    intro cursor value rest success
    simp [run, refuse] at success

theorem takesSigns_flagsAfter (seen : Flags) : TakesSigns (flagsAfter seen) 0 := by
  intro cursor value rest success
  simp only [run] at success
  -- The reader goes from flag to flag; what it takes off are words, spaces and commas.
  fun_induction flagsAfter seen cursor with
  | case1 => simp [refuse] at success
  | case2 => simp [refuse] at success
  | case3 seen cursor start name after flag known fresh more same ih =>
    have later := ih success
    rw [← later, ← count_skipSpaces cursor, ← count_afterWord, ← count_skipSpaces, same]
    simp
  | case4 seen cursor start name after flag known fresh stop =>
    simp only [Prod.mk.injEq] at success
    rw [← success.2, count_skipSpaces, count_afterWord, count_skipSpaces, Nat.zero_add]

def signs : Format → Nat
  | .programAddress => 2
  | .registerDataAddress => 1
  | .none | .registerPairCarry | .registerPair | .flags | .register | .registerImmediate => 0

theorem takesSigns_registerPair : TakesSigns registerPair 0 :=
  takesSigns_register.bind_left fun _ => takesSigns_comma.bind_left fun _ =>
    takesSigns_register.bind_left fun _ => takesSigns_pure _

theorem takesSigns_chainedPair (build : Register → Register → Bool → Instruction) :
    TakesSigns (chainedPair build) 0 :=
  takesSigns_registerPair.bind_left fun _ => takesSigns_carryClause.bind_left fun _ =>
    takesSigns_pure _

theorem takesSigns_branch (build : BitVec 12 → Instruction) : TakesSigns (branch build) 2 :=
  (takesSigns_number ['$', '$']).bind_left fun _ => takesSigns_pure _

theorem takesSigns_transfer (build : Register → BitVec 10 → Instruction) :
    TakesSigns (transfer build) 1 :=
  takesSigns_register.bind_right fun _ => takesSigns_comma.bind_right fun _ =>
    (takesSigns_number ['$']).bind_left fun _ => takesSigns_pure _

theorem takesSigns_operands (opcode : Opcode) : TakesSigns (operands opcode) (signs opcode.format) := by
  have nand : TakesSigns (operands .nand) 0 :=
    takesSigns_registerPair.bind_left fun _ => takesSigns_pure _
  have shr : TakesSigns (operands .shr) 0 := takesSigns_register.bind_left fun _ => takesSigns_pure _
  have stb : TakesSigns (operands .stb) 0 :=
    (takesSigns_flagsAfter {}).bind_left fun _ => takesSigns_pure _
  have clb : TakesSigns (operands .clb) 0 :=
    (takesSigns_flagsAfter {}).bind_left fun _ => takesSigns_pure _
  have ldi : TakesSigns (operands .ldi) 0 :=
    takesSigns_register.bind_left fun _ => takesSigns_comma.bind_left fun _ =>
      takesSigns_immediate.bind_left fun _ => takesSigns_pure _
  cases opcode with
  | hlt | ret => exact takesSigns_pure _
  | add | sub | cmp => exact takesSigns_chainedPair _
  | nand => exact nand
  | shr => exact shr
  | stb => exact stb
  | clb => exact clb
  | ldi => exact ldi
  | lod | str => exact takesSigns_transfer _
  | jmp | jc | jz | call => exact takesSigns_branch _

theorem run_toEnd_eq_ok_iff {opcode : Opcode} {text : List Char} {found : Instruction} :
    ((do
        let found ← operands opcode
        endOfStatement
        return found : Reader Instruction).run text).1 = .ok found ↔
      ∃ rest, (operands opcode).run text = (.ok found, rest) ∧ skipSpaces rest = [] := by
  rw [run_bind]
  cases (operands opcode).run text with
  | mk outcome rest =>
    cases outcome with
    | error failure => simp
    | ok value =>
      simp only [run_bind, Prod.mk.injEq, Except.ok.injEq]
      cases ended : skipSpaces rest with
      | nil =>
        have done : endOfStatement.run rest = (.ok (), []) := by simp [run, endOfStatement, ended]
        simp only [done, run_pure, Except.ok.injEq]
        constructor
        · intro same
          exact ⟨rest, ⟨same, rfl⟩, ended⟩
        · rintro ⟨_, ⟨same, _⟩, _⟩
          exact same
      | cons c more =>
        have stuck : endOfStatement.run rest =
            (.error (Problem.failure (.trailing (some c))), c :: more) := by
          simp [run, endOfStatement, ended, refuse]
        simp [stuck, ended]

/-- A statement is read if its first word names an operation and its operands are read to
their end, but for spaces. -/
theorem instruction_eq_ok_iff {code : List Char} {found : Instruction} :
    instruction code = .ok found ↔
      ∃ opcode rest, opcodeNamed? (splitWord (trim code)).1 = some opcode ∧
        (operands opcode).run (splitWord (trim code)).2 = (.ok found, rest) ∧
        skipSpaces rest = [] := by
  have unnamed : opcodeNamed? [] = none := by decide
  unfold instruction
  generalize splitWord (trim code) = parts
  obtain ⟨name, text⟩ := parts
  dsimp only
  cases name with
  | nil => simp [unnamed]
  | cons c name =>
    cases named : opcodeNamed? (c :: name) with
    | none => simp
    | some opcode => simp [run_toEnd_eq_ok_iff]

end HarvardBench.Assembly
