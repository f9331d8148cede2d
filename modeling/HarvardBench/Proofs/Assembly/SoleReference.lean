import HarvardBench.Proofs.Assembly.Operands
import HarvardBench.Proofs.Assembly.Reference
import HarvardBench.Proofs.Isa.Encoding
import HarvardBench.Proofs.Symbols

/-! References in statements that are accepted.

A resolved reference puts two dollar signs into the operands, and only the operands of a
branch have as many. So a statement that is accepted refers to one label at most, as
all of its operands.
-/

set_option autoImplicit false

namespace HarvardBench.Assembly

open Text Reader

theorem count_addressText (address : Int) : 2 ≤ (addressText address).count '$' := by
  simp [addressText]

theorem count_resolvePieces {symbols : Symbols} {pieces : List Piece} {piece : Piece}
    {resolved : List Char} {label : String} (success : resolvePieces symbols pieces = .ok resolved)
    (member : piece ∈ pieces) (refers : piece.reference? = some label) : 2 ≤ resolved.count '$' := by
  obtain ⟨front, back, rfl⟩ := List.append_of_mem member
  obtain ⟨before, _, _, later, rfl⟩ := resolvePieces_append_ok.mp success
  obtain ⟨here, after, read, _, rfl⟩ := resolvePieces_cons_ok.mp later
  obtain ⟨address, _, rfl⟩ := (Piece.resolve_eq_ok_iff refers).mp read
  have := count_addressText address
  simp only [List.count_append]
  omega

/-- Pieces that are resolved without a dollar sign hold no reference. -/
theorem resolvePieces_eq_text {symbols : Symbols} {pieces : List Piece} {resolved : List Char}
    (success : resolvePieces symbols pieces = .ok resolved) (unsigned : resolved.count '$' = 0) :
    resolved = pieces.flatMap Piece.text := by
  have none : ∀ piece ∈ pieces, piece.reference? = none := by
    intro piece member
    cases refers : piece.reference? with
    | none => rfl
    | some label =>
      have := count_resolvePieces success member refers
      omega
  rw [resolvePieces_of_none none] at success
  exact (Except.ok.inj success).symm

theorem Piece.head_after_name {attached : Bool} {text name : List Char} {front back : List Piece}
    (pieces : split attached text = front ++ .name name :: back) :
    ∀ c ∈ (back.flatMap Piece.text).head?, isNameChar c = false := by
  -- A name is split off as a whole run, so what follows does not begin with one of its letters.
  fun_induction split attached text generalizing front with
  | case1 => simp at pieces
  | case2 attached c rest _ ih =>
    cases front with
    | nil =>
      simp only [List.nil_append, List.cons.injEq] at pieces
      rw [← pieces.2, flatMap_text_split]
      exact stop_dropWhile rest
    | cons piece front =>
      simp only [List.cons_append, List.cons.injEq] at pieces
      exact ih pieces.2
  | case3 attached c rest _ ih =>
    cases front with
    | nil => simp at pieces
    | cons piece front =>
      simp only [List.cons_append, List.cons.injEq] at pieces
      exact ih pieces.2

/-- Behind a name no digit stands, since the name would go on with it. -/
theorem Piece.no_digit_after_name {attached : Bool} {text name : List Char} {front back : List Piece}
    (pieces : split attached text = front ++ .name name :: back) :
    ∀ c ∈ (back.flatMap Piece.text).head?, Radix.decimal.isDigit c = false := by
  intro c first
  by_contra digit
  have named := isNameChar_of_isDigit (isDigit_of_decimal (by simpa using digit))
  rw [head_after_name pieces c first] at named
  contradiction

theorem signs_le_two (format : Format) : signs format ≤ 2 := by cases format <;> decide

theorem format_of_signs {format : Format} (many : 2 ≤ signs format) : format = .programAddress := by
  cases format <;> simp [signs] at many ⊢

theorem operands_of_branching {opcode : Opcode} {build : BitVec 12 → Instruction}
    (branches : opcode.branching? = some build) : operands opcode = branch build := by
  cases Opcode.branches_of_branching branches <;> rfl

theorem count_of_ended {rest : Cursor} (ended : skipSpaces rest = []) : rest.count '$' = 0 := by
  rw [← count_skipSpaces, ended, List.count_nil]

theorem sigil_ok_head {sign : Char} {more : List Char} {cursor rest : Cursor} {value : Unit}
    (read : (sigil (sign :: more)).run cursor = (.ok value, rest)) : cursor.head? = some sign := by
  cases cursor with
  | nil => simp [run, sigil, refuse] at read
  | cons c cursor =>
    simp only [run, sigil] at read
    split at read
    · next same => simp [same]
    · simp [refuse] at read

theorem spaces_before_sign {build : BitVec 12 → Instruction} {front tail rest : List Char}
    {found : Instruction} (read : (branch build).run (front ++ '$' :: tail) = (.ok found, rest))
    (unsigned : front.count '$' = 0) : ∀ c ∈ front, isSpace c = true := by
  obtain ⟨_, _, numbered, _⟩ := run_bind_ok read
  obtain ⟨_, between, skipped, signed⟩ := run_bind_ok numbered
  obtain ⟨_, _, signed, _⟩ := run_bind_ok signed
  have start : between = skipSpaces (front ++ '$' :: tail) := by
    simp only [run, spaces, Prod.mk.injEq] at skipped
    exact skipped.2.symm
  have first := sigil_ok_head signed
  rw [start, skipSpaces, List.dropWhile_append] at first
  split at first
  · next all => exact List.dropWhile_eq_nil_iff.mp (List.isEmpty_iff.mp all)
  · next some =>
    rw [List.head?_append_of_ne_nil _ (by simpa using some)] at first
    have member := (List.dropWhile_sublist isSpace).subset (List.mem_of_mem_head? first)
    exact absurd member (List.count_eq_zero.mp unsigned)

theorem isBlank_of_isSpace {c : Char} (space : isSpace c = true) : isBlank c = true := by
  simp only [isSpace, Bool.or_eq_true, beq_iff_eq] at space
  rcases space with rfl | rfl <;> decide

section Accepted

variable {symbols : Symbols} {text resolved rest : List Char} {opcode : Opcode} {found : Instruction}
  {label : String}

theorem nil_of_spaces_front {front back : List Char} (trimmed : Trimmed (front ++ back))
    (spaces : ∀ c ∈ front, isSpace c = true) : front = [] := by
  cases front with
  | nil => rfl
  | cons c front =>
    have blank := isBlank_of_isSpace (spaces c List.mem_cons_self)
    simp [trimmed.front c (by simp)] at blank

theorem nil_of_spaces_back {front back : List Char} (trimmed : Trimmed (front ++ back))
    (spaces : skipSpaces back = []) : back = [] := by
  by_contra filled
  have last := List.getLast?_eq_some_getLast filled
  have space := List.dropWhile_eq_nil_iff.mp spaces _ (List.getLast_mem filled)
  have blank := isBlank_of_isSpace space
  rw [trimmed.back _ (by rw [List.getLast?_append_of_ne_nil _ filled]; exact last)] at blank
  simp at blank

/-- An accepted statement that refers to a label is a branch to it. -/
theorem branch_of_refers (natural : ∀ entry ∈ symbols, 0 ≤ entry.2) (trimmed : Trimmed text)
    (success : resolveOperands symbols text = .ok resolved)
    (read : (operands opcode).run resolved = (.ok found, rest)) (ended : skipSpaces rest = [])
    (refers : Refers text label) :
    text = label.toList ∧ ∃ build, ∃ address : Nat, opcode.branching? = some build ∧
      symbols.get? label = some (address : Int) ∧ found = build (BitVec.ofNat 12 address) := by
  obtain ⟨piece, member, refers⟩ := refers_iff.mp refers
  obtain ⟨front, back, pieces⟩ := List.append_of_mem member
  unfold resolveOperands at success
  rw [pieces] at success
  obtain ⟨before, _, frontRead, later, rfl⟩ := resolvePieces_append_ok.mp success
  obtain ⟨here, after, pieceRead, backRead, rfl⟩ := resolvePieces_cons_ok.mp later
  obtain ⟨address, known, rfl⟩ := (Piece.resolve_eq_ok_iff refers).mp pieceRead
  -- The reference uses up the dollar signs of the operation.
  have taken := takesSigns_operands opcode read
  have two := count_addressText address
  have most := signs_le_two opcode.format
  rw [count_of_ended ended, List.count_append, List.count_append] at taken
  have format : opcode.format = .programAddress := format_of_signs (by omega)
  obtain ⟨build, branches⟩ := Option.isSome_iff_exists.mp (Opcode.branching?_isSome_iff.mpr format)
  rw [operands_of_branching branches] at read
  -- No sign is left for the pieces on both sides, so they are resolved to themselves.
  obtain rfl := resolvePieces_eq_text frontRead (by omega)
  obtain rfl := resolvePieces_eq_text backRead (by omega)
  obtain ⟨address, rfl⟩ := Int.eq_ofNat_of_zero_le (natural _ (Table.mem_of_get? known))
  have whole : text = front.flatMap Piece.text ++ (piece.text ++ back.flatMap Piece.text) := by
    rw [← Piece.flatMap_text_split false text, pieces]
    simp
  rw [addressText_ofNat] at read
  have frontNil : front.flatMap Piece.text = [] :=
    nil_of_spaces_front (whole ▸ trimmed) (spaces_before_sign read (by omega))
  -- Read back as an address, the reference leaves the pieces behind it as the rest.
  obtain ⟨rfl, _⟩ := Piece.reference?_eq_some_iff.mp refers
  rw [frontNil, List.nil_append, List.append_assoc, List.append_assoc,
    run_branch build address (.inr rfl) (Piece.no_digit_after_name pieces)] at read
  by_cases short : address < decimalSpan
  · simp only [if_pos short, Prod.mk.injEq, Except.ok.injEq] at read
    obtain ⟨rfl, rfl⟩ := read
    rw [frontNil, List.nil_append] at whole
    have backNil : back.flatMap Piece.text = [] := nil_of_spaces_back (whole ▸ trimmed) ended
    refine ⟨?_, build, address, branches, known, rfl⟩
    rw [whole, backNil, List.append_nil, Piece.text]
  · simp only [if_neg short, Prod.mk.injEq, reduceCtorEq, false_and] at read

end Accepted

end HarvardBench.Assembly
