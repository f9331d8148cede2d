import HarvardBench.Proofs.Assembly.Language
import HarvardBench.Proofs.Assembly.Rejection

/-! Numerals that are too long.

A decimal numeral of more digits than can be read, and an immediate value of more digits than
can be shown, are the two ways in which operands fail without a report. All that stands before
such a numeral is derived as in a statement, and what stands behind it does not matter.
-/

set_option autoImplicit false

namespace HarvardBench.Grammar

open Assembly Text Reader

/-- A numeral in front of a text, with all the digits that there are. -/
structure Leads (base : Radix) (marker digits rest : List Char) (value : Nat) : Prop where
  marked : Marker marker base
  digits : Digits base.base digits value
  whole : ∀ c ∈ rest.head?, ∀ value, ¬ IsDigit base.base c value

/-- A sign and a numeral with too many digits to be read, whatever stands behind them. -/
inductive TooLong (sign : List Char) : List Char → Prop where
  | digits {marker digits rest : List Char} {value : Nat} (leads : Leads .decimal marker digits rest value)
      (long : decimalLimit < digits.length) : TooLong sign (sign ++ (marker ++ (digits ++ rest)))

/-- A sign and a numeral that can be read, with a value that cannot be shown. -/
inductive TooLarge (sign : List Char) : List Char → Prop where
  | value {base : Radix} {marker digits rest : List Char} {value : Nat}
      (leads : Leads base marker digits rest value) (short : base = .decimal → digits.length ≤ decimalLimit)
      (large : decimalSpan ≤ value) : TooLarge sign (sign ++ (marker ++ (digits ++ rest)))

/-- Operands that are well formed up to a numeral which is too long or too large. -/
inductive Overlong : Format → List Char → Prop where
  | programAddress {front text : List Char} (before : Gap front) (long : TooLong ['$', '$'] text) :
      Overlong .programAddress (front ++ text)
  | dataAddress {target : Register} {front left separator text : List Char} (before : Gap front)
      (named : Spells target.name.toList left) (separated : Separator separator) (long : TooLong ['$'] text) :
      Overlong .registerDataAddress (front ++ (left ++ (separator ++ text)))
  | immediate {target : Register} {front left separator text : List Char} (before : Gap front)
      (named : Spells target.name.toList left) (separated : Separator separator) (long : TooLong ['#'] text) :
      Overlong .registerImmediate (front ++ (left ++ (separator ++ text)))
  | value {target : Register} {front left separator text : List Char} (before : Gap front)
      (named : Spells target.name.toList left) (separated : Separator separator) (large : TooLarge ['#'] text) :
      Overlong .registerImmediate (front ++ (left ++ (separator ++ text)))

variable {cursor rest text : List Char}

theorem Overlong.ne_nil {format : Format} (long : Overlong format text) : text ≠ [] := by
  have behind {target : Register} {left : List Char} (named : Spells target.name.toList left)
      (front after : List Char) : front ++ (left ++ after) ≠ [] :=
    List.append_ne_nil_of_right_ne_nil front
      (List.append_ne_nil_of_left_ne_nil ((isKeyword_register target).text_ne_nil named) after)
  cases long with
  | programAddress _ long => cases long; simp
  | dataAddress _ named _ _ => exact behind named _ _
  | immediate _ named _ _ => exact behind named _ _
  | value _ named _ _ => exact behind named _ _

/-! ## Spaces in front -/

theorem skipSpaces_append {front : List Char} (gap : Gap front) (text : List Char) :
    skipSpaces (front ++ text) = skipSpaces text :=
  List.dropWhile_append_of_pos fun c member => isSpace_iff.mpr (gap c member)

theorem run_register_gap {front : List Char} (gap : Gap front) (text : List Char) :
    Assembly.register.run (front ++ text) = Assembly.register.run text := by
  simp only [run, Assembly.register, skipSpaces_append gap]

theorem run_number_gap {front : List Char} (gap : Gap front) (sign text : List Char) :
    (number sign).run (front ++ text) = (number sign).run text := by
  unfold number
  rw [run_bind, run_bind]
  simp only [run, spaces, skipSpaces_append gap]

/-! ## Numbers -/

section Numbers

variable {sign : List Char} {base : Radix} {value : Nat}

theorem digits_whole (base : Radix) (cursor : Cursor) :
    ∀ c ∈ (cursor.dropWhile base.isDigit).head?, ∀ value, ¬ IsDigit base.base c value := by
  intro c first value digit
  have stop := stop_dropWhile (p := base.isDigit) cursor c first
  rw [isDigit_iff.mpr ⟨value, digit⟩] at stop
  cases stop

theorem digits_read {outcome : Except Failure Nat} (read : (digits base).run cursor = (outcome, rest))
    (plain : ∀ failure, outcome = .error failure → ¬ failure.IsReport) :
    ∃ numeral value, cursor = numeral ++ rest ∧ Digits base.base numeral value ∧
      (∀ c ∈ rest.head?, ∀ value, ¬ IsDigit base.base c value) ∧
        outcome = if base.admits numeral.length then .ok value else .error .numeralTooLong := by
  simp only [run, Assembly.digits] at read
  have joined : cursor = cursor.takeWhile base.isDigit ++ cursor.dropWhile base.isDigit :=
    List.takeWhile_append_dropWhile.symm
  have whole := digits_whole base cursor
  -- No digit at all is reported, so the digits are there and only their count can be refused.
  split at read
  · obtain ⟨rfl, rfl⟩ := Prod.mk.inj read
    exact absurd (Problem.isReport_failure rfl) (plain _ rfl)
  · next filled =>
    have written : Digits base.base (cursor.takeWhile base.isDigit) (base.value (cursor.takeWhile base.isDigit)) :=
      digits_iff.mpr ⟨by simpa using filled, fun _ member => List.mem_takeWhile_imp member, rfl⟩
    have left : cursor.dropWhile base.isDigit = rest := by
      split at read <;> exact (Prod.mk.inj read).2
    rw [left] at joined whole
    refine ⟨_, _, joined, written, whole, ?_⟩
    split at read
    · next admitted => rw [if_pos admitted]; exact (Prod.mk.inj read).1.symm
    · next refused => rw [if_neg refused]; exact (Prod.mk.inj read).1.symm

theorem sign_sound {between numeral : Cursor} (skipped : spaces.run cursor = (.ok (), between))
    {unmarked : Cursor} (signed : (sigil sign).run between = (.ok (), unmarked))
    (marked : Assembly.radix.run unmarked = (.ok base, numeral)) :
    ∃ front marker, cursor = front ++ (sign ++ (marker ++ numeral)) ∧ Gap front ∧ Marker marker base := by
  obtain ⟨front, before, same⟩ := exists_gap cursor
  obtain ⟨marker, rfl, letter⟩ := radix_sound marked
  simp only [run, spaces, Prod.mk.injEq] at skipped
  exact ⟨front, marker, by rw [same, skipped.2, sigil_sound signed], before, letter⟩

theorem number_tooLong (failed : (number sign).run cursor = (.error .numeralTooLong, rest)) :
    ∃ front text, cursor = front ++ text ∧ Gap front ∧ TooLong sign text := by
  -- A sign or a radix is refused with a report, so the fault is in the digits behind them.
  rcases run_bind_error failed with here | ⟨_, between, skipped, behindSpaces⟩
  · cases here
  · rcases run_bind_error behindSpaces with unsigned | ⟨_, unmarked, signed, behindSign⟩
    · exact absurd (fails_sigil sign unsigned) Failure.not_isReport_numeralTooLong
    · rcases run_bind_error behindSign with never | ⟨base, numeral, marked, unread⟩
      · exact absurd (fails_radix never) Failure.not_isReport_numeralTooLong
      · obtain ⟨front, marker, rfl, before, letter⟩ := sign_sound skipped signed marked
        have plain : ∀ failure, Except.error (α := Nat) Failure.numeralTooLong = .error failure →
            ¬ failure.IsReport :=
          fun _ same => Except.error.inj same ▸ Failure.not_isReport_numeralTooLong
        obtain ⟨digits, value, rfl, written, whole, outcome⟩ := digits_read unread plain
        split at outcome
        · cases outcome
        · next refused =>
          rw [admits_iff, Classical.not_imp, Nat.not_le] at refused
          obtain ⟨rfl, long⟩ := refused
          exact ⟨front, _, rfl, before, .digits ⟨letter, written, whole⟩ long⟩

theorem number_leads (read : (number sign).run cursor = (.ok value, rest)) :
    ∃ front base marker digits, cursor = front ++ (sign ++ (marker ++ (digits ++ rest))) ∧ Gap front ∧
      Leads base marker digits rest value ∧ (base = .decimal → digits.length ≤ decimalLimit) := by
  obtain ⟨_, between, skipped, signRead⟩ := run_bind_ok read
  obtain ⟨_, unmarked, signed, markerRead⟩ := run_bind_ok signRead
  obtain ⟨base, numeral, marked, digitsRead⟩ := run_bind_ok markerRead
  obtain ⟨front, marker, rfl, before, letter⟩ := sign_sound skipped signed marked
  obtain ⟨digits, value, rfl, written, whole, outcome⟩ := digits_read digitsRead fun _ same => by cases same
  split at outcome
  · next admitted =>
    obtain rfl := Except.ok.inj outcome
    exact ⟨front, base, marker, digits, rfl, before, ⟨letter, written, whole⟩, admits_iff.mp admitted⟩
  · cases outcome

/-- A numeral that leads a text is read behind its sign, unless it has too many digits. -/
theorem number_of_leads {marker digits : List Char} (signed : sign ≠ []) (solid : ∀ c ∈ sign, isSpace c = false)
    (leads : Leads base marker digits rest value) :
    (number sign).run (sign ++ (marker ++ (digits ++ rest))) =
      (if base.admits digits.length then .ok value else .error .numeralTooLong, rest) := by
  obtain ⟨filled, inside, same⟩ := digits_iff.mp leads.digits
  have stop : ∀ c ∈ rest.head?, base.isDigit c = false := by
    intro c first
    by_contra digit
    obtain ⟨value, digit⟩ := isDigit_iff.mp (by simpa using digit)
    exact leads.whole c first value digit
  rw [run_number signed solid (radix_complete leads.marked leads.digits rest) inside filled stop, same]

theorem TooLong.run (signed : sign ≠ []) (solid : ∀ c ∈ sign, isSpace c = false) (long : TooLong sign text) :
    ∃ rest, (number sign).run text = (.error .numeralTooLong, rest) := by
  cases long with
  | @digits _ digits rest _ leads long =>
    have refused : ¬ Radix.decimal.admits digits.length = true := by
      rw [admits_iff, Classical.not_imp, Nat.not_le]
      exact ⟨rfl, long⟩
    exact ⟨rest, by rw [number_of_leads signed solid leads, if_neg refused]⟩

theorem TooLong.stop (signed : sign ≠ []) (solid : ∀ c ∈ sign, isSpace c = false) (long : TooLong sign text) :
    ∀ c ∈ text.head?, isSpace c = false := by
  cases long
  rw [List.head?_append_of_ne_nil sign signed]
  exact fun c first => solid c (List.mem_of_mem_head? first)

end Numbers

/-! ## Immediate values -/

theorem failure_immediate_iff {value : Nat} :
    (Problem.immediate value).failure = .numeralTooLong ↔ decimalSpan ≤ value := by
  unfold Problem.failure
  simp only [Problem.shown, List.all_cons, List.all_nil, Bool.and_true, isShowable, Int.natAbs_natCast,
    decide_eq_true_eq]
  by_cases shown : value < decimalSpan
  · simp [shown]
  · simp [shown, Nat.not_lt.mp shown]

theorem immediate_overlong (failed : immediate.run cursor = (.error .numeralTooLong, rest)) :
    ∃ front text, cursor = front ++ text ∧ Gap front ∧ (TooLong ['#'] text ∨ TooLarge ['#'] text) := by
  rcases run_bind_error failed with unread | ⟨value, between, read, refused⟩
  · obtain ⟨front, text, rfl, before, long⟩ := number_tooLong unread
    exact ⟨front, text, rfl, before, .inl long⟩
  · obtain ⟨front, base, marker, digits, rfl, before, leads, short⟩ := number_leads read
    refine ⟨front, _, rfl, before, .inr (.value leads short ?_)⟩
    split at refused
    · cases refused
    · exact failure_immediate_iff.mp (Except.error.inj (Prod.mk.inj refused).1)

theorem run_immediate_tooLong (long : TooLong ['#'] text) :
    ∃ rest, immediate.run text = (.error .numeralTooLong, rest) := by
  obtain ⟨rest, failed⟩ := long.run (List.cons_ne_nil _ _) (by simp [isSpace])
  exact ⟨rest, by unfold immediate; rw [run_bind, failed]⟩

theorem run_immediate_tooLarge (large : TooLarge ['#'] text) :
    ∃ rest, immediate.run text = (.error .numeralTooLong, rest) := by
  cases large with
  | @value base marker digits rest value leads short large =>
    have read := number_of_leads (List.cons_ne_nil '#' []) (by simp [isSpace]) leads
    rw [if_pos (admits_iff.mpr short)] at read
    have beyond : ¬ value ≤ 255 := by
      have byte : 255 < decimalSpan := lt_limit_of_short (by decide)
      omega
    refine ⟨rest, ?_⟩
    unfold immediate
    rw [run_bind_of_ok read, if_neg beyond]
    exact Prod.ext (congrArg Except.error (failure_immediate_iff.mpr large)) rfl

theorem TooLarge.stop (large : TooLarge ['#'] text) : ∀ c ∈ text.head?, isSpace c = false := by
  cases large
  simp [isSpace]

/-! ## Operands -/

section Operands

variable {α : Type} {next : Register → Reader α}

theorem registerComma_fails
    (failed : (do let first ← Assembly.register; comma; next first : Reader α).run cursor =
      (.error .numeralTooLong, rest)) :
    ∃ first front left separator after, cursor = front ++ (left ++ (separator ++ after)) ∧ Gap front ∧
      Spells first.name.toList left ∧ Separator separator ∧
        (next first).run after = (.error .numeralTooLong, rest) := by
  rcases run_bind_error failed with unnamed | ⟨first, middle, named, behindName⟩
  · exact absurd (fails_register unnamed) Failure.not_isReport_numeralTooLong
  · rcases run_bind_error behindName with apart | ⟨_, after, separated, later⟩
    · exact absurd (fails_comma apart) Failure.not_isReport_numeralTooLong
    · obtain ⟨front, left, separator, rfl, before, spelled, marked⟩ := registerComma_sound named separated
      exact ⟨first, front, left, separator, after, rfl, before, spelled, marked, later⟩

theorem run_registerComma_gap {first : Register} {front left separator after : List Char} (before : Gap front)
    (named : Spells first.name.toList left) (separated : Separator separator)
    (stop : ∀ c ∈ after.head?, isSpace c = false) :
    (do let first ← Assembly.register; comma; next first : Reader α).run
      (front ++ (left ++ (separator ++ after))) = (next first).run after := by
  have read : Assembly.register.run (front ++ (left ++ (separator ++ after))) = (.ok first, separator ++ after) := by
    rw [run_register_gap before]
    exact register_complete named separated.stop
  rw [run_bind_of_ok read, run_bind_of_ok (comma_complete separated stop)]

theorem branch_overlong_iff {build : BitVec 12 → Instruction} :
    (∃ rest, (branch build).run cursor = (.error .numeralTooLong, rest)) ↔ Overlong .programAddress cursor := by
  constructor
  · rintro ⟨rest, failed⟩
    rcases run_bind_error failed with unread | ⟨_, _, _, never⟩
    · obtain ⟨front, text, rfl, before, long⟩ := number_tooLong unread
      exact .programAddress before long
    · cases never
  · rintro ⟨before, long⟩
    obtain ⟨rest, failed⟩ := long.run (List.cons_ne_nil _ _) (by simp [isSpace])
    refine ⟨rest, ?_⟩
    unfold branch programNumber
    rw [run_bind, run_number_gap before, failed]

theorem transfer_overlong_iff {build : Register → BitVec 10 → Instruction} :
    (∃ rest, (transfer build).run cursor = (.error .numeralTooLong, rest)) ↔
      Overlong .registerDataAddress cursor := by
  constructor
  · rintro ⟨rest, failed⟩
    obtain ⟨first, front, left, separator, after, rfl, before, named, separated, later⟩ := registerComma_fails failed
    rcases run_bind_error later with unread | ⟨_, _, _, never⟩
    · obtain ⟨inner, text, rfl, inside, long⟩ := number_tooLong unread
      rw [← List.append_assoc separator]
      exact .dataAddress before named (separated.pad_right inside) long
    · cases never
  · rintro ⟨⟩
    next before named separated long =>
    obtain ⟨rest, failed⟩ := long.run (List.cons_ne_nil _ _) (by simp [isSpace])
    refine ⟨rest, ?_⟩
    unfold transfer
    rw [run_registerComma_gap before named separated (long.stop (List.cons_ne_nil _ _) (by simp [isSpace]))]
    unfold dataNumber
    rw [run_bind, failed]

theorem load_overlong_iff :
    (∃ rest, (operands .ldi).run cursor = (.error .numeralTooLong, rest)) ↔ Overlong .registerImmediate cursor := by
  constructor
  · rintro ⟨rest, failed⟩
    obtain ⟨first, front, left, separator, after, rfl, before, named, separated, later⟩ := registerComma_fails failed
    -- The register and the comma are read, so the fault is in the value.
    rcases run_bind_error later with unread | ⟨_, _, _, never⟩
    · obtain ⟨inner, text, rfl, inside, long | large⟩ := immediate_overlong unread
      · rw [← List.append_assoc separator]
        exact .immediate before named (separated.pad_right inside) long
      · rw [← List.append_assoc separator]
        exact .value before named (separated.pad_right inside) large
    · cases never
  · intro overlong
    unfold operands
    cases overlong with
    | immediate before named separated long =>
      obtain ⟨rest, failed⟩ := run_immediate_tooLong long
      refine ⟨rest, ?_⟩
      rw [run_registerComma_gap before named separated (long.stop (List.cons_ne_nil _ _) (by simp [isSpace])),
        run_bind, failed]
    | value before named separated large =>
      obtain ⟨rest, failed⟩ := run_immediate_tooLarge large
      refine ⟨rest, ?_⟩
      rw [run_registerComma_gap before named separated large.stop, run_bind, failed]

end Operands

theorem operands_overlong_iff {opcode : Opcode} :
    (∃ rest, (operands opcode).run cursor = (.error .numeralTooLong, rest)) ↔ Overlong opcode.format cursor := by
  have reported {reader : Reader Instruction} {format : Format} (fails : FailsWith Failure.IsReport reader)
      (plain : ∀ text, ¬ Overlong format text) :
      (∃ rest, reader.run cursor = (.error .numeralTooLong, rest)) ↔ Overlong format cursor :=
    iff_of_false (fun ⟨_, failed⟩ => Failure.not_isReport_numeralTooLong (fails failed)) (plain cursor)
  cases opcode with
  | hlt | ret => exact reported (failsWith_pure _) nofun
  | add | sub | cmp => exact reported (fails_chainedPair _) nofun
  | nand => exact reported (fails_registerPair.bind fun _ => failsWith_pure _) nofun
  | shr => exact reported (fails_register.bind fun _ => failsWith_pure _) nofun
  | stb => exact reported ((fails_flagsAfter {}).bind fun _ => failsWith_pure _) nofun
  | clb => exact reported ((fails_flagsAfter {}).bind fun _ => failsWith_pure _) nofun
  | jmp | jc | jz | call => exact branch_overlong_iff
  | lod | str => exact transfer_overlong_iff
  | ldi => exact load_overlong_iff

/-- A statement fails without a report exactly if its operands do. -/
theorem statement_overlong_iff {code : List Char} :
    statementWord code = .error .numeralTooLong ↔
      ∃ opcode, opcodeNamed? (splitWord (trim code)).1 = some opcode ∧
        Overlong opcode.format (splitWord (trim code)).2 := by
  rw [statementWord_error_iff]
  constructor
  · intro rejected
    rcases instruction_error rejected with report | ⟨opcode, rest, named, failed⟩
    · exact absurd report Failure.not_isReport_numeralTooLong
    · exact ⟨opcode, named, operands_overlong_iff.mp ⟨rest, failed⟩⟩
  · rintro ⟨opcode, named, overlong⟩
    obtain ⟨rest, failed⟩ := operands_overlong_iff.mpr overlong
    have unnamed : opcodeNamed? [] = none := by decide
    unfold instruction
    generalize splitWord (trim code) = parts at named failed ⊢
    obtain ⟨name, text⟩ := parts
    dsimp only at named failed ⊢
    rw [if_neg (by rintro empty; simp [List.isEmpty_iff.mp empty, unnamed] at named), named]
    dsimp only
    rw [run_bind, failed]

end HarvardBench.Grammar
