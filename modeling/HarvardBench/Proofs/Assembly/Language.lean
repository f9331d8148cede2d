import HarvardBench.Proofs.Assembly.Derivation
import HarvardBench.Proofs.Assembly.Printing

/-! The texts that are read as statements.

A code has a word exactly if the grammar derives it, and then the number of the word is the
number that is derived. The blanks of a code are more than the spaces around its operands:
every white space of Unicode may stand before, behind and after the name of the operation.
-/

set_option autoImplicit false

namespace HarvardBench.Grammar

open Assembly Text Reader

variable {cursor middle between rest : List Char} {first second : Register} {found : Instruction}

/-! ## Operands are derived -/

def Padded (format : Format) (text : List Char) (fields : Nat) : Prop :=
  ∃ front inner back, text = front ++ (inner ++ back) ∧ Gap front ∧ Gap back ∧ Operands format inner fields

theorem registerComma_sound (named : register.run cursor = (.ok first, middle))
    (separated : comma.run middle = (.ok (), rest)) :
    ∃ front left separator, cursor = front ++ (left ++ (separator ++ rest)) ∧ Gap front ∧
      Spells first.name.toList left ∧ Separator separator := by
  obtain ⟨front, left, rfl, before, spelled⟩ := register_sound named
  obtain ⟨separator, rfl, marked⟩ := comma_sound separated
  exact ⟨front, left, separator, rfl, before, spelled, marked⟩

/-- The spaces before a second operand belong to the separator. -/
theorem registerNumber_sound {sign : List Char} {value : Nat} (named : register.run cursor = (.ok first, middle))
    (separated : comma.run middle = (.ok (), between)) (numbered : (number sign).run between = (.ok value, rest)) :
    ∃ front left separator numeral, cursor = front ++ ((left ++ (separator ++ (sign ++ numeral))) ++ rest) ∧
      Gap front ∧ Spells first.name.toList left ∧ Separator separator ∧ Numeral numeral value := by
  obtain ⟨front, left, separator, rfl, before, spelled, marked⟩ := registerComma_sound named separated
  obtain ⟨inner, numeral, rfl, inside, written⟩ := number_sound numbered
  refine ⟨front, left, separator ++ inner, numeral, ?_, before, spelled, marked.pad_right inside, written⟩
  simp only [List.append_assoc]

theorem registerPair_sound (read : registerPair.run cursor = (.ok (first, second), rest)) :
    ∃ front left separator right, cursor = front ++ (left ++ (separator ++ (right ++ rest))) ∧ Gap front ∧
      Spells first.name.toList left ∧ Separator separator ∧ Spells second.name.toList right := by
  obtain ⟨_, _, named, commaRead⟩ := run_bind_ok read
  obtain ⟨_, _, separated, secondRead⟩ := run_bind_ok commaRead
  obtain ⟨_, _, other, paired⟩ := run_bind_ok secondRead
  obtain ⟨pair, rfl⟩ := run_pure_ok paired
  obtain ⟨rfl, rfl⟩ := Prod.mk.inj pair
  obtain ⟨front, left, separator, rfl, before, spelled, marked⟩ := registerComma_sound named separated
  obtain ⟨inner, right, rfl, inside, last⟩ := register_sound other
  refine ⟨front, left, separator ++ inner, right, ?_, before, spelled, marked.pad_right inside, last⟩
  rw [List.append_assoc separator]

theorem chainedPair_sound {build : Register → Register → Bool → Instruction}
    (fields : ∀ first second chained,
      (build first second chained).payload = Instruction.pairPayload first second + chained.toNat * 128)
    (read : (chainedPair build).run cursor = (.ok found, rest)) (ended : Gap rest) :
    Padded .registerPairCarry cursor found.payload := by
  obtain ⟨⟨first, second⟩, _, pairRead, clauseRead⟩ := run_bind_ok read
  obtain ⟨chained, _, clause, built⟩ := run_bind_ok clauseRead
  obtain ⟨rfl, rfl⟩ := run_pure_ok built
  obtain ⟨front, left, separator, right, rfl, before, target, marked, source⟩ := registerPair_sound pairRead
  rw [fields]
  -- Without a clause what follows the pair is spaces, and they end the statement.
  rcases carryClause_sound clause with ⟨rfl, behind⟩ | ⟨rfl, apart, text, rfl, separated, named⟩
  · rw [Bool.toNat_false, Nat.zero_mul, Nat.add_zero]
    refine ⟨front, left ++ (separator ++ right), _, ?_, before, behind, .unchained target marked source⟩
    simp only [List.append_assoc]
  · rw [Bool.toNat_true, Nat.one_mul]
    refine ⟨front, left ++ (separator ++ (right ++ (apart ++ text))), _, ?_, before, ended,
      .chained target marked source separated named⟩
    simp only [List.append_assoc]

theorem branch_sound {build : BitVec 12 → Instruction} (fields : ∀ target, (build target).payload = target.toNat)
    (read : (branch build).run cursor = (.ok found, rest)) (ended : Gap rest) :
    Padded .programAddress cursor found.payload := by
  obtain ⟨value, _, numbered, built⟩ := run_bind_ok read
  obtain ⟨rfl, rfl⟩ := run_pure_ok built
  obtain ⟨front, numeral, rfl, before, written⟩ := number_sound numbered
  rw [fields, BitVec.toNat_ofNat]
  exact ⟨front, '$' :: '$' :: numeral, _, rfl, before, ended, .programAddress written⟩

theorem transfer_sound {build : Register → BitVec 10 → Instruction}
    (fields : ∀ first address, (build first address).payload = first.code * 1024 + address.toNat)
    (read : (transfer build).run cursor = (.ok found, rest)) (ended : Gap rest) :
    Padded .registerDataAddress cursor found.payload := by
  obtain ⟨first, _, named, commaRead⟩ := run_bind_ok read
  obtain ⟨_, _, separated, numberRead⟩ := run_bind_ok commaRead
  obtain ⟨value, _, numbered, built⟩ := run_bind_ok numberRead
  obtain ⟨rfl, rfl⟩ := run_pure_ok built
  obtain ⟨front, left, separator, numeral, rfl, before, spelled, marked, written⟩ :=
    registerNumber_sound named separated numbered
  rw [fields, BitVec.toNat_ofNat]
  exact ⟨front, _, _, rfl, before, ended, .dataAddress spelled marked written⟩

theorem immediate_sound {value : Nat} (read : immediate.run cursor = (.ok value, rest)) :
    (number ['#']).run cursor = (.ok value, rest) ∧ value ≤ 255 := by
  obtain ⟨_, _, numbered, checked⟩ := run_bind_ok read
  rcases run_ite_ok checked with ⟨byte, checked⟩ | ⟨_, checked⟩
  · obtain ⟨rfl, rfl⟩ := run_pure_ok checked
    exact ⟨numbered, byte⟩
  · cases checked

theorem toNat_ofNat_byte {value : Nat} (byte : value ≤ 255) : (BitVec.ofNat 8 value).toNat = value := by
  rw [BitVec.toNat_ofNat]
  exact Nat.mod_eq_of_lt (by omega)

theorem toNat_eq_ite {holds : Prop} [Decidable holds] {bit : Bool} (same : bit = true ↔ holds) (weight : Nat) :
    bit.toNat * weight = if holds then weight else 0 := by
  cases bit with
  | false => rw [if_neg (by simpa using same), Bool.toNat_false, Nat.zero_mul]
  | true => rw [if_pos (same.mp rfl), Bool.toNat_true, Nat.one_mul]

theorem flagPayload_adds {named : List Flag} {flags : Flags} (adds : Adds {} named flags) :
    Instruction.flagPayload flags =
      (if .carry ∈ named then 2048 else 0) + if .zero ∈ named then 1024 else 0 := by
  have listed (flag : Flag) : flags.get flag = true ↔ flag ∈ named := by
    rw [adds flag]
    cases flag <;> exact or_iff_right nofun
  exact congrArg₂ (· + ·) (toNat_eq_ite (listed .carry) 2048) (toNat_eq_ite (listed .zero) 1024)

theorem flags_sound {named : Flags} (read : flags.run cursor = (.ok named, rest)) (ended : Gap rest) :
    Padded .flags cursor (Instruction.flagPayload named) := by
  obtain ⟨front, text, back, listed, rfl, before, behind, list, once, _, adds⟩ := flagsAfter_sound read
  rw [flagPayload_adds adds]
  exact ⟨front, text, back ++ rest, rfl, before, behind.append ended, .flags list once⟩

theorem operands_sound {opcode : Opcode} (read : (operands opcode).run cursor = (.ok found, rest))
    (ended : Gap rest) : Padded opcode.format cursor found.payload := by
  cases opcode with
  | hlt | ret =>
    obtain ⟨rfl, rfl⟩ := run_pure_ok read
    exact ⟨[], [], cursor, rfl, gap_nil, ended, .none⟩
  | add | sub | cmp => exact chainedPair_sound (fun _ _ _ => rfl) read ended
  | jmp | jc | jz | call => exact branch_sound (fun _ => rfl) read ended
  | lod | str => exact transfer_sound (fun _ _ => rfl) read ended
  | nand =>
    obtain ⟨⟨first, second⟩, _, pairRead, built⟩ := run_bind_ok read
    obtain ⟨rfl, rfl⟩ := run_pure_ok built
    obtain ⟨front, left, separator, right, rfl, before, target, marked, source⟩ := registerPair_sound pairRead
    refine ⟨front, left ++ (separator ++ right), _, ?_, before, ended, .registerPair target marked source⟩
    simp only [List.append_assoc]
  | shr =>
    obtain ⟨target, _, named, built⟩ := run_bind_ok read
    obtain ⟨rfl, rfl⟩ := run_pure_ok built
    obtain ⟨front, name, rfl, before, spelled⟩ := register_sound named
    exact ⟨front, name, _, rfl, before, ended, .register spelled⟩
  | stb | clb =>
    obtain ⟨named, _, flagsRead, built⟩ := run_bind_ok read
    obtain ⟨rfl, rfl⟩ := run_pure_ok built
    exact flags_sound flagsRead ended
  | ldi =>
    obtain ⟨target, _, named, commaRead⟩ := run_bind_ok read
    obtain ⟨_, _, separated, valueRead⟩ := run_bind_ok commaRead
    obtain ⟨value, _, immediateRead, built⟩ := run_bind_ok valueRead
    obtain ⟨rfl, rfl⟩ := run_pure_ok built
    obtain ⟨numbered, byte⟩ := immediate_sound immediateRead
    obtain ⟨front, left, separator, numeral, rfl, before, spelled, marked, written⟩ :=
      registerNumber_sound named separated numbered
    -- The value is within a byte, so it is not cut.
    rw [Instruction.payload, toNat_ofNat_byte byte]
    exact ⟨front, _, _, rfl, before, ended, .immediate spelled marked written byte⟩

/-! ## Derived operands are read -/

section Complete

variable {left separator right inner : List Char} {fields : Nat}

theorem registerPair_complete (target : Spells first.name.toList left) (separated : Separator separator)
    (source : Spells second.name.toList right) (stop : ∀ c ∈ rest.head?, isWordChar c = false) :
    registerPair.run (left ++ (separator ++ (right ++ rest))) = (.ok (first, second), rest) := by
  have start := (isKeyword_register second).stop source rest
  unfold registerPair
  rw [run_bind_of_ok (register_complete target separated.stop), run_bind_of_ok (comma_complete separated start),
    run_bind_of_ok (register_complete source stop), run_pure]

theorem chainedPair_complete {build : Register → Register → Bool → Instruction}
    (payload : ∀ first second chained,
      (build first second chained).payload = Instruction.pairPayload first second + chained.toNat * 128)
    (written : Operands .registerPairCarry inner fields) :
    ∃ found, (chainedPair build).run inner = (.ok found, []) ∧ found.payload = fields := by
  unfold chainedPair
  cases written with
  | @unchained first second left separator right target separated source =>
    have pairRead : registerPair.run (left ++ (separator ++ (right ++ []))) = (.ok (first, second), []) :=
      registerPair_complete target separated source nofun
    rw [List.append_nil] at pairRead
    refine ⟨build first second false, ?_, by rw [payload, Bool.toNat_false, Nat.zero_mul, Nat.add_zero]; rfl⟩
    rw [run_bind_of_ok pairRead]
    dsimp only
    rw [run_bind_of_ok run_carryClause_none, run_pure]
  | @chained first second left separator right before clause target separated source apart named =>
    have pairRead : registerPair.run (left ++ (separator ++ (right ++ (before ++ clause)))) =
        (.ok (first, second), before ++ clause) :=
      registerPair_complete target separated source apart.stop
    refine ⟨build first second true, ?_, by rw [payload, Bool.toNat_true, Nat.one_mul]; rfl⟩
    rw [run_bind_of_ok pairRead]
    dsimp only
    rw [run_bind_of_ok (carryClause_complete apart named), run_pure]

theorem branch_complete {build : BitVec 12 → Instruction} (payload : ∀ target, (build target).payload = target.toNat)
    (written : Operands .programAddress inner fields) :
    ∃ found, (branch build).run inner = (.ok found, []) ∧ found.payload = fields := by
  cases written with
  | @programAddress numeral value number =>
    have read : programNumber.run ('$' :: '$' :: numeral) = (.ok value, []) :=
      number_complete (by decide) (by simp [isSpace]) number
    refine ⟨build (BitVec.ofNat 12 value), ?_, by rw [payload, BitVec.toNat_ofNat]⟩
    unfold branch
    rw [run_bind_of_ok read, run_pure]

theorem transfer_complete {build : Register → BitVec 10 → Instruction}
    (payload : ∀ first address, (build first address).payload = first.code * 1024 + address.toNat)
    (written : Operands .registerDataAddress inner fields) :
    ∃ found, (transfer build).run inner = (.ok found, []) ∧ found.payload = fields := by
  cases written with
  | @dataAddress target left separator numeral value named separated number =>
    have read : dataNumber.run ('$' :: numeral) = (.ok value, []) :=
      number_complete (by decide) (by simp [isSpace]) number
    refine ⟨build target (BitVec.ofNat 10 value), ?_, by rw [payload, BitVec.toNat_ofNat]⟩
    unfold transfer
    rw [run_bind_of_ok (register_complete named separated.stop),
      run_bind_of_ok (comma_complete separated (by simp [isSpace])), run_bind_of_ok read, run_pure]

theorem flags_complete (written : Operands .flags inner fields) :
    ∃ named, flags.run inner = (.ok named, []) ∧ Instruction.flagPayload named = fields := by
  cases written with
  | @flags text named list once =>
    have fresh : ∀ flag ∈ named, ¬Flags.get {} flag = true := fun flag _ => by cases flag <;> decide
    obtain ⟨named, read, adds⟩ := flagsAfter_complete list once fresh gap_nil
    exact ⟨named, read, flagPayload_adds adds⟩

theorem operands_complete {opcode : Opcode} (written : Operands opcode.format inner fields) :
    ∃ found, (operands opcode).run inner = (.ok found, []) ∧ found.payload = fields := by
  -- Operations of one format share its reader; the others are read part by part.
  cases opcode with
  | hlt => cases written; exact ⟨.hlt, rfl, rfl⟩
  | ret => cases written; exact ⟨.ret, rfl, rfl⟩
  | add | sub | cmp => exact chainedPair_complete (fun _ _ _ => rfl) written
  | jmp | jc | jz | call => exact branch_complete (fun _ => rfl) written
  | lod | str => exact transfer_complete (fun _ _ => rfl) written
  | nand =>
    cases written with
    | @registerPair first second left separator right target separated source =>
      have pairRead : registerPair.run (left ++ (separator ++ (right ++ []))) = (.ok (first, second), []) :=
        registerPair_complete target separated source nofun
      rw [List.append_nil] at pairRead
      exact ⟨.nand first second, run_bind_of_ok pairRead _, rfl⟩
  | shr =>
    cases written with
    | @register target _ named =>
      have read : Assembly.register.run (inner ++ []) = (.ok target, []) := register_complete named nofun
      rw [List.append_nil] at read
      exact ⟨.shr target, run_bind_of_ok read _, rfl⟩
  | stb =>
    obtain ⟨named, read, payload⟩ := flags_complete written
    exact ⟨.stb named, run_bind_of_ok read _, payload⟩
  | clb =>
    obtain ⟨named, read, payload⟩ := flags_complete written
    exact ⟨.clb named, run_bind_of_ok read _, payload⟩
  | ldi =>
    cases written with
    | @immediate target left separator numeral value named separated number byte =>
      have numbered : (Assembly.number ['#']).run ('#' :: numeral) = (.ok value, []) :=
        number_complete (by decide) (by simp [isSpace]) number
      have read : immediate.run ('#' :: numeral) = (.ok value, []) := by
        unfold immediate
        rw [run_bind_of_ok numbered, run_ite_pos byte, run_pure]
      refine ⟨.ldi target (BitVec.ofNat 8 value), ?_, by rw [Instruction.payload, toNat_ofNat_byte byte]⟩
      unfold operands
      rw [run_bind_of_ok (register_complete named separated.stop),
        run_bind_of_ok (comma_complete separated (by simp [isSpace])), run_bind_of_ok read, run_pure]

end Complete

/-! ## Blanks around operands -/

theorem trimmed_between {left right : List Char} (middle : List Char) (starts : Trimmed left)
    (filled : left ≠ []) (ends : Trimmed right) (more : right ≠ []) : Trimmed (left ++ (middle ++ right)) where
  front := by
    intro c head
    rw [List.head?_append_of_ne_nil left filled] at head
    exact starts.front c head
  back := by
    intro c last
    rw [← List.append_assoc, List.getLast?_append_of_ne_nil _ more] at last
    exact ends.back c last

theorem IsKeyword.isPart {name text : List Char} (keyword : IsKeyword name) (spelled : Spells name text) :
    IsPart text :=
  ⟨keyword.text_ne_nil spelled, fun c member => by simp [isPlain, keyword.isNameChar spelled c member]⟩

theorem isPlain_of_isDigit {base value : Nat} {c : Char} (small : base ≤ 16) (digit : IsDigit base c value) :
    isPlain c = true := by
  obtain ⟨below, same⟩ := digit
  have bound : value < 16 := Nat.lt_of_lt_of_le below small
  rcases same with rfl | rfl <;> interval_cases value <;> decide

theorem isPlain_of_marker {marker : List Char} {radix : Radix} (marked : Marker marker radix) :
    ∀ c ∈ marker, isPlain c = true := by
  cases marked with
  | none => exact List.forall_mem_nil _
  | decimal letter | binary letter | hexadecimal letter =>
    refine List.forall_mem_singleton.mpr ?_
    rcases letter with rfl | rfl <;> decide

theorem isPlain_of_numeral {numeral : List Char} {value : Nat} (written : Numeral numeral value) :
    ∀ c ∈ numeral, isPlain c = true := by
  cases written with
  | digits marked digits _ =>
    obtain ⟨_, inside, _⟩ := digits_iff.mp digits
    refine List.forall_mem_append.mpr ⟨isPlain_of_marker marked, fun c member => ?_⟩
    obtain ⟨_, digit⟩ := isDigit_iff.mp (inside c member)
    exact isPlain_of_isDigit (base_le _) digit

theorem isPart_signed {sign : Char} {numeral : List Char} {value : Nat} (plain : isPlain sign = true)
    (written : Numeral numeral value) : IsPart (sign :: numeral) :=
  ⟨List.cons_ne_nil sign numeral, List.forall_mem_cons.mpr ⟨plain, isPlain_of_numeral written⟩⟩

theorem trimmed_parts {left right : List Char} (middle : List Char) (starts : IsPart left)
    (ends : IsPart right) : Trimmed (left ++ (middle ++ right)) :=
  trimmed_between middle (trimmed_of_isPart starts) starts.1 (trimmed_of_isPart ends) ends.1

theorem FlagList.trimmed {text : List Char} {named : List Flag} (list : FlagList text named) :
    text ≠ [] ∧ Trimmed text := by
  induction list with
  | @single text flag spelled =>
    have part := (isKeyword_flag flag).isPart spelled
    exact ⟨part.1, trimmed_of_isPart part⟩
  | @cons text separator others flag named spelled separated more ih =>
    have part := (isKeyword_flag flag).isPart spelled
    obtain ⟨filled, trimmed⟩ := ih
    exact ⟨List.append_ne_nil_of_left_ne_nil part.1 _,
      trimmed_between separator (trimmed_of_isPart part) part.1 trimmed filled⟩

theorem Operands.trimmed {format : Format} {text : List Char} {fields : Nat}
    (written : Operands format text fields) : Trimmed text := by
  have word {register : Register} {name : List Char} (spelled : Spells register.name.toList name) : IsPart name :=
    (isKeyword_register register).isPart spelled
  cases written with
  | none => exact ⟨nofun, nofun⟩
  | registerPair target _ source => exact trimmed_parts _ (word target) (word source)
  | unchained target _ source => exact trimmed_parts _ (word target) (word source)
  | @chained first second left separator right before clause target _ _ _ named =>
    -- The second register stands in the middle here, and the clause at the end.
    have ends := trimmed_parts (separator ++ (right ++ before)) (word target)
      ((isKeyword_flag .carry).isPart named)
    simpa only [List.append_assoc] using ends
  | programAddress number =>
    have dollar : IsPart ['$'] := by decide
    exact trimmed_of_isPart (dollar.append (isPart_signed (by decide) number))
  | dataAddress named _ number => exact trimmed_parts _ (word named) (isPart_signed (by decide) number)
  | flags list _ => exact list.trimmed.2
  | register named => exact trimmed_of_isPart (word named)
  | immediate named _ number _ => exact trimmed_parts _ (word named) (isPart_signed (by decide) number)

/-! ## Statements -/

section Statements

variable {front name gap text back : List Char}

theorem Gap.blanks (spaces : Gap text) : Blanks text :=
  fun c member => isBlank_of_isSpace (isSpace_iff.mpr (spaces c member))

theorem Blanks.append (before : Blanks front) (after : Blanks back) : Blanks (front ++ back) :=
  List.forall_mem_append.mpr ⟨before, after⟩

theorem exists_trimLeft (text : List Char) : ∃ front, text = front ++ trimLeft text ∧ Blanks front :=
  ⟨text.takeWhile isBlank, List.takeWhile_append_dropWhile.symm, fun _ member => List.mem_takeWhile_imp member⟩

theorem exists_trimRight (text : List Char) : ∃ back, text = trimRight text ++ back ∧ Blanks back := by
  obtain ⟨back, same, blanks⟩ := exists_trimLeft text.reverse
  refine ⟨back.reverse, ?_, fun c member => blanks c (List.mem_reverse.mp member)⟩
  rw [trimRight, ← List.reverse_append, ← trimLeft, ← same, List.reverse_reverse]

theorem exists_trim (text : List Char) :
    ∃ front back, text = front ++ (trim text ++ back) ∧ Blanks front ∧ Blanks back := by
  obtain ⟨front, left, before⟩ := exists_trimLeft text
  obtain ⟨back, right, after⟩ := exists_trimRight (trimLeft text)
  exact ⟨front, back, by rw [trim, ← right, ← left], before, after⟩

theorem exists_splitWord (trimmed : Trimmed text) :
    ∃ gap, text = (splitWord text).1 ++ (gap ++ (splitWord text).2) ∧ Blanks gap ∧
      (gap = [] → (splitWord text).2 = []) := by
  unfold splitWord
  rw [trimLeft_of_front trimmed.front]
  dsimp only
  have stop := stop_dropWhile (p := fun c => !isBlank c) text
  have joined : text.takeWhile (fun c => !isBlank c) ++ text.dropWhile (fun c => !isBlank c) = text :=
    List.takeWhile_append_dropWhile
  generalize text.dropWhile (fun c => !isBlank c) = more at stop joined ⊢
  obtain ⟨gap, same, blanks⟩ := exists_trimLeft more
  refine ⟨gap, by rw [← same, joined], blanks, ?_⟩
  rintro rfl
  -- The rest begins with a blank, if it begins at all, and what is left of it with none.
  rw [List.nil_append] at same
  rw [← same]
  cases more with
  | nil => rfl
  | cons c more =>
    have solid := front_trimLeft (c :: more) c (by rw [← same]; rfl)
    have blank := stop c rfl
    rw [solid] at blank
    cases blank

theorem trim_padded (before : Blanks front) (trimmed : Trimmed text) (filled : text ≠ []) (after : Blanks back) :
    trim (front ++ (text ++ back)) = text := by
  have start : ∀ c ∈ (text ++ back).head?, isBlank c = false := by
    rw [List.head?_append_of_ne_nil text filled]
    exact trimmed.front
  have ending : ∀ c ∈ text.reverse.head?, isBlank c = false := by
    rw [List.head?_reverse]
    exact trimmed.back
  have blanks : ∀ c ∈ back.reverse, isBlank c = true := fun c member => after c (List.mem_reverse.mp member)
  rw [trim, trimLeft, dropWhile_append_of_stop before start, trimRight, List.reverse_append,
    dropWhile_append_of_stop blanks ending, List.reverse_reverse]

theorem splitWord_padded (before : Blanks front) (solid : ∀ c ∈ name, isBlank c = false) (filled : name ≠ [])
    (between : Blanks gap) (apart : gap = [] → text = []) (trimmed : Trimmed text) (after : Blanks back) :
    splitWord (trim (front ++ (name ++ (gap ++ (text ++ back))))) = (name, text) := by
  have named : Trimmed name :=
    ⟨fun c first => solid c (List.mem_of_mem_head? first), fun c last => solid c (List.mem_of_mem_getLast? last)⟩
  -- Without operands the gap is trimmed off as well, and the name is all that is left.
  by_cases empty : text = []
  · subst empty
    rw [List.nil_append, trim_padded before named filled (between.append after), splitWord_word solid]
  · obtain ⟨c, more, rfl⟩ := List.exists_cons_of_ne_nil fun none => empty (apart none)
    obtain ⟨blank, blanks⟩ := List.forall_mem_cons.mp between
    have whole := trimmed_between (c :: more) named filled trimmed empty
    have written : front ++ (name ++ (c :: more ++ (text ++ back))) =
        front ++ ((name ++ (c :: more ++ text)) ++ back) := by
      simp only [List.append_assoc]
    rw [written, trim_padded before whole (List.append_ne_nil_of_left_ne_nil filled _) after,
      List.cons_append, splitWord_append solid blank filled, trimLeft,
      dropWhile_append_of_stop blanks trimmed.front]

theorem opcodeNamed?_iff {opcode : Opcode} : opcodeNamed? name = some opcode ↔ upper name = opcode.name.toList := by
  unfold opcodeNamed? Opcode.ofName?
  constructor
  · intro known
    have same := List.find?_some known
    exact (beq_iff_eq.mp same).symm
  · intro same
    rw [same]
    cases opcode <;> rfl

theorem statement_sound {code : List Char} {word : Word} (success : statementWord code = .ok word) :
    Statement code word.toNat := by
  obtain ⟨found, read, rfl⟩ := map_eq_ok_iff.mp success
  obtain ⟨opcode, rest, named, taken, ended⟩ := instruction_eq_ok_iff.mp read
  obtain ⟨front, back, outside, before, after⟩ := exists_trim code
  obtain ⟨gap, inside, between, apart⟩ := exists_splitWord (trimmed_trim code)
  have solid := solid_splitWord (trim code)
  generalize splitWord (trim code) = parts at named taken inside apart solid
  obtain ⟨name, text⟩ := parts
  obtain ⟨left, inner, right, padded, spaces, more, written⟩ := operands_sound taken (gap_iff.mpr ended)
  have operation : found.opcode = opcode := (yields_operands opcode taken).1
  -- Nothing but an empty text follows the name without a blank between them.
  have bare : gap ++ left = [] → inner = [] := by
    intro none
    obtain ⟨noGap, _⟩ := List.append_eq_nil_iff.mp none
    rw [apart noGap] at padded
    exact (List.append_eq_nil_iff.mp (List.append_eq_nil_iff.mp padded.symm).2).1
  have whole : code = front ++ (name ++ ((gap ++ left) ++ (inner ++ (right ++ back)))) :=
    calc code = front ++ ((name ++ (gap ++ (left ++ (inner ++ right)))) ++ back) := by
          rw [← padded, ← inside, ← outside]
      _ = _ := by simp only [List.append_assoc]
  rw [Instruction.toNat_word, operation, whole]
  exact .operation before solid (opcodeNamed?_iff.mp named) (between.append spaces.blanks) bare written
    (more.blanks.append after)

theorem statement_complete {code : List Char} {value : Nat} (written : Statement code value) :
    ∃ word, statementWord code = .ok word ∧ word.toNat = value := by
  cases written with
  | @operation front name gap operands back opcode fields before solid named between apart written after =>
    -- No operation has an empty name.
    have filled : name ≠ [] := by
      rintro rfl
      cases opcode <;> exact absurd named (by decide)
    have parts := splitWord_padded before solid filled between apart written.trimmed after
    obtain ⟨found, taken, payload⟩ := operands_complete written
    have operation : found.opcode = opcode := (yields_operands opcode taken).1
    have read : instruction (front ++ (name ++ (gap ++ (operands ++ back)))) = .ok found := by
      rw [instruction_eq_ok_iff, parts]
      exact ⟨opcode, [], opcodeNamed?_iff.mpr named, taken, rfl⟩
    refine ⟨found.word, map_eq_ok_iff.mpr ⟨found, read, rfl⟩, ?_⟩
    rw [Instruction.toNat_word, operation, payload]

end Statements

/-- A code has a word exactly if it is a statement, and the word is the one that it stands for. -/
theorem statementWord_iff_statement (code : List Char) (value : Nat) :
    (∃ word, statementWord code = .ok word ∧ word.toNat = value) ↔ Statement code value := by
  constructor
  · rintro ⟨word, success, rfl⟩
    exact statement_sound success
  · exact statement_complete

end HarvardBench.Grammar
