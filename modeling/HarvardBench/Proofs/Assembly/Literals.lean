import HarvardBench.Proofs.Assembly.Overlong

/-! Number literals.

A number is written behind a sign, to the base that a letter names, with any zeros in front and its
digits in either letter case. The longest run of digits is taken, so that what follows must not go on
with a digit of the same base. A text that has no literal behind its sign is malformed; one that has a
literal is not, even if its digits are too many or its value is too large.
-/

set_option autoImplicit false

namespace HarvardBench.Grammar

open Assembly Text Reader

/-- A number written to a base, with the letter of the base. -/
inductive Literal : Radix → List Char → Nat → Prop where
  | written {base : Radix} {marker digits : List Char} {n zeros : Nat} (marked : Marker marker base)
      (spelled : Spells (List.replicate zeros '0' ++ Nat.toDigits base.base n) digits)
      (short : base = .decimal → digits.length ≤ decimalLimit) : Literal base (marker ++ digits) n

/-- A literal stands behind a sign, whatever follows it. -/
inductive Starts (sign : List Char) : List Char → Prop where
  | literal {base : Radix} {front literal rest : List Char} {n : Nat} (before : Gap front)
      (written : Literal base literal n) : Starts sign (front ++ (sign ++ (literal ++ rest)))

def Malformed (reader : Reader Nat) (text : List Char) : Prop :=
  ∃ report rest, reader.run text = (.error (.reported ⟨.form, report, none⟩), rest)

variable {base : Radix} {sign marker digits text rest : List Char} {n value : Nat}

/-! ## Digits -/

theorem digitValue?_toUpper (c : Char) : digitValue? c.toUpper = digitValue? c := by
  unfold digitValue?
  dsimp only
  rw [toNat_toUpper]
  split <;> grind

theorem digitIn?_toUpper (base : Nat) (c : Char) : digitIn? base c.toUpper = digitIn? base c := by
  rw [digitIn?, digitIn?, digitValue?_toUpper]

theorem Digits.recased {name : List Char} (written : Digits base.base name n) (spelled : Spells name text) :
    Digits base.base text n := by
  have same {letter c : Char} (either : c = letter ∨ c = letter.toUpper) :
      digitIn? base.base c = digitIn? base.base letter := by
    rcases either with rfl | rfl
    · rfl
    · exact digitIn?_toUpper _ _
  -- Either case of a digit has the same value, and so has the whole numeral.
  have value (total : Nat) : text.foldl (fun total c => total * base.base + (digitIn? base.base c).getD 0) total =
      name.foldl (fun total c => total * base.base + (digitIn? base.base c).getD 0) total := by
    clear written
    induction spelled generalizing total with
    | nil => rfl
    | cons either _ ih => rw [List.foldl_cons, List.foldl_cons, same either, ih]
  obtain ⟨filled, inside, made⟩ := digits_iff.mp written
  refine digits_iff.mpr ⟨?_, fun c member => ?_, (value 0).trans made⟩
  · rintro rfl
    exact filled (List.forall₂_nil_right_iff.mp spelled)
  · obtain ⟨letter, own, either⟩ := exists_of_mem_forall₂ spelled.flip member
    rw [Radix.isDigit, isDigitIn, same either]
    exact inside letter own

theorem Digits.zero_cons (written : Digits base.base text n) : Digits base.base ('0' :: text) n := by
  obtain ⟨_, inside, value⟩ := digits_iff.mp written
  have zero : base.isDigit '0' = true := by cases base <;> rfl
  have start : base.value ('0' :: text) = base.value text := by cases base <;> rfl
  exact digits_iff.mpr ⟨List.cons_ne_nil _ _, List.forall_mem_cons.mpr ⟨zero, inside⟩, start.trans value⟩

theorem Digits.zeros (count : Nat) (written : Digits base.base text n) :
    Digits base.base (List.replicate count '0' ++ text) n := by
  induction count with
  | zero => exact written
  | succ count ih => exact ih.zero_cons

/-! ## Literals -/

theorem Literal.parts {literal : List Char} (written : Literal base literal n) :
    ∃ marker digits, literal = marker ++ digits ∧ Marker marker base ∧ Digits base.base digits n ∧
      (base = .decimal → digits.length ≤ decimalLimit) := by
  obtain ⟨marked, spelled, short⟩ := written
  exact ⟨_, _, rfl, marked, ((digits_toDigits base n).zeros _).recased spelled, short⟩

theorem literal_digit {c : Char} (marked : Marker marker base) (digit : IsDigit base.base c n) :
    Literal base (marker ++ [c]) n := by
  have spelled : Spells (List.replicate 0 '0' ++ Nat.toDigits base.base n) [c] := by
    rw [Nat.toDigits_of_lt_base digit.1]
    exact .cons digit.2 .nil
  exact .written marked spelled fun _ => Nat.one_le_of_lt (by decide : 0 < decimalLimit)

/-- The longest run of digits behind a sign begins with a literal. -/
theorem Leads.starts {front : List Char} (before : Gap front) (leads : Leads base marker digits rest n) :
    Starts sign (front ++ (sign ++ (marker ++ (digits ++ rest)))) := by
  obtain ⟨filled, inside, _⟩ := digits_iff.mp leads.digits
  obtain ⟨c, more, rfl⟩ := List.exists_cons_of_ne_nil filled
  obtain ⟨value, digit⟩ := isDigit_iff.mp (inside c List.mem_cons_self)
  have start : Starts sign (front ++ (sign ++ ((marker ++ [c]) ++ (more ++ rest)))) :=
    .literal before (literal_digit leads.marked digit)
  simpa using start

theorem Starts.leads (start : Starts sign text) :
    ∃ front base marker digits rest n, text = front ++ (sign ++ (marker ++ (digits ++ rest))) ∧ Gap front ∧
      Leads base marker digits rest n := by
  obtain ⟨before, written⟩ := start
  next base front literal rest n =>
  obtain ⟨marker, digits, rfl, marked, made, _⟩ := written.parts
  obtain ⟨filled, inside, _⟩ := digits_iff.mp made
  obtain ⟨c, more, rfl⟩ := List.exists_cons_of_ne_nil filled
  have taken : (c :: (more ++ rest)).takeWhile base.isDigit ≠ [] := by
    simp [inside c List.mem_cons_self]
  refine ⟨front, base, marker, _, (c :: (more ++ rest)).dropWhile base.isDigit, _, ?_, before, marked,
    digits_iff.mpr ⟨taken, fun _ member => List.mem_takeWhile_imp member, rfl⟩, digits_whole base _⟩
  rw [List.takeWhile_append_dropWhile, List.append_assoc, List.cons_append]

section Readers

variable (signed : sign ≠ []) (solid : ∀ c ∈ sign, isSpace c = false)

include signed solid

theorem run_literal {front literal : List Char} (before : Gap front) (written : Literal base literal n)
    (whole : ∀ c ∈ rest.head?, ∀ value, ¬ IsDigit base.base c value) :
    (number sign).run (front ++ (sign ++ (literal ++ rest))) = (.ok n, rest) := by
  obtain ⟨marker, digits, rfl, marked, made, short⟩ := written.parts
  rw [run_number_gap before, List.append_assoc, number_of_leads signed solid ⟨marked, made, whole⟩,
    if_pos (admits_iff.mpr short)]

theorem number_malformed_iff : Malformed (number sign) text ↔ ¬ Starts sign text := by
  constructor
  · rintro ⟨report, rest, failed⟩ start
    obtain ⟨front, base, marker, digits, behind, n, rfl, before, leads⟩ := start.leads
    rw [run_number_gap before, number_of_leads signed solid leads] at failed
    split at failed <;> cases failed
  · intro bare
    cases ran : (number sign).run text with
    | mk outcome rest =>
      cases outcome with
      | ok value =>
        obtain ⟨front, base, marker, digits, rfl, before, leads, _⟩ := number_leads ran
        exact absurd (leads.starts before) bare
      | error failure =>
        have fails : FailsWith (fun failure => (∃ report, failure = .reported ⟨.form, report, none⟩) ∨
            failure = .numeralTooLong) (number sign) :=
          failsWith_number sign (fun _ _ => .inl ⟨_, Problem.failure_eq rfl⟩)
            (fun _ => .inl ⟨_, Problem.failure_eq rfl⟩) (.inr rfl)
        -- It fails on the form or on the length, and only a number that starts can be too long.
        rcases fails ran with ⟨report, rfl⟩ | rfl
        · exact ⟨report, rest, ran⟩
        · obtain ⟨front, _, rfl, before, ⟨leads, _⟩⟩ := number_tooLong ran
          exact absurd (leads.starts before) bare

end Readers

/-! ## Immediate values -/

theorem run_immediate_literal {value : Nat} (read : (number ['#']).run text = (.ok value, rest)) :
    immediate.run text =
      if value ≤ 255 then (.ok value, rest) else (.error (Problem.immediate value).failure, rest) := by
  unfold immediate
  rw [run_bind_of_ok read]
  split <;> rfl

theorem failure_immediate (shown : n < decimalSpan) :
    (Problem.immediate n).failure = .reported ⟨.range, (Problem.immediate n).text, none⟩ := by
  have small : (Problem.immediate n).shown.all isShowable = true := by
    simpa [Problem.shown, isShowable] using shown
  exact if_pos small

theorem immediate_malformed_iff : Malformed immediate text ↔ Malformed (number ['#']) text := by
  constructor
  · rintro ⟨report, rest, failed⟩
    rcases run_bind_error failed with unread | ⟨value, between, read, refused⟩
    · exact ⟨report, rest, unread⟩
    · split at refused
      · cases refused
      · have same := Except.error.inj (Prod.mk.inj refused).1
        unfold Problem.failure at same
        split at same <;> simp [Problem.diagnostic, Problem.kind] at same
  · rintro ⟨report, rest, failed⟩
    exact ⟨report, rest, by unfold immediate; rw [run_bind, failed]⟩

/-! ## The three kinds of numbers -/

/-- Every literal is read as its number, up to the end of its digits, and a text without one is
malformed. -/
theorem number_literals :
    (∀ {base literal n front rest}, Literal base literal n → Gap front →
      (∀ c ∈ rest.head?, ∀ value, ¬ IsDigit base.base c value) →
        programNumber.run (front ++ (['$', '$'] ++ (literal ++ rest))) = (.ok n, rest) ∧
        dataNumber.run (front ++ (['$'] ++ (literal ++ rest))) = (.ok n, rest) ∧
        (n ≤ 255 → immediate.run (front ++ (['#'] ++ (literal ++ rest))) = (.ok n, rest)) ∧
        (255 < n → (Nat.toDigits 10 n).length ≤ decimalLimit →
          immediate.run (front ++ (['#'] ++ (literal ++ rest))) =
            (.error (.reported ⟨.range, (Problem.immediate n).text, none⟩), rest))) ∧
    ∀ text, (Malformed programNumber text ↔ ¬ Starts ['$', '$'] text) ∧
      (Malformed dataNumber text ↔ ¬ Starts ['$'] text) ∧
      (Malformed immediate text ↔ ¬ Starts ['#'] text) := by
  have program : ∀ c ∈ ['$', '$'], isSpace c = false := by simp [isSpace]
  have data : ∀ c ∈ ['$'], isSpace c = false := by simp [isSpace]
  have value : ∀ c ∈ ['#'], isSpace c = false := by simp [isSpace]
  refine ⟨fun written before whole => ?_, fun text => ?_⟩
  · have read := run_immediate_literal (run_literal (by decide) value before written whole)
    refine ⟨run_literal (by decide) program before written whole,
      run_literal (by decide) data before written whole, fun small => ?_, fun large short => ?_⟩
    · rw [read, if_pos small]
    · rw [read, if_neg (Nat.not_le.mpr large), failure_immediate (admits_toDigits_iff.mp (decide_eq_true short))]
  · exact ⟨number_malformed_iff (by decide) program, number_malformed_iff (by decide) data,
      immediate_malformed_iff.trans (number_malformed_iff (by decide) value)⟩

theorem number_literals_read :
    programNumber.run "\t $$X00fF,".toList = (.ok 255, [',']) ∧
      immediate.run "#d0300".toList =
        (.error (.reported ⟨.range, "Value must be in range 0..255, received 300", none⟩), []) ∧
      ¬ Starts ['$'] "$b2".toList := by
  have margin : Gap ['\t', ' '] := by simp [Gap]
  have letters : Spells (List.replicate 2 '0' ++ Nat.toDigits 16 255) ['0', '0', 'f', 'F'] :=
    .cons (.inl rfl) (.cons (.inl rfl) (.cons (.inl rfl) (.cons (.inr rfl) .nil)))
  have figures : Spells (List.replicate 1 '0' ++ Nat.toDigits 10 300) ['0', '3', '0', '0'] :=
    .cons (.inl rfl) (.cons (.inl rfl) (.cons (.inl rfl) (.cons (.inl rfl) .nil)))
  have address : Literal .hexadecimal ['X', '0', '0', 'f', 'F'] 255 :=
    .written (.hexadecimal (.inr rfl)) letters nofun
  have value : Literal .decimal ['d', '0', '3', '0', '0'] 300 :=
    .written (.decimal (.inl rfl)) figures fun _ => by decide
  have comma : ∀ c ∈ [','].head?, ∀ value, ¬ IsDigit Radix.hexadecimal.base c value := by
    rintro c ⟨⟩ value digit
    exact absurd (isDigit_iff.mpr ⟨value, digit⟩) (by decide)
  have last : ∀ c ∈ ([] : List Char).head?, ∀ value, ¬ IsDigit Radix.decimal.base c value := nofun
  exact ⟨(number_literals.1 address margin comma).1,
    (number_literals.1 value gap_nil last).2.2.2 (by decide) (by decide),
    (number_literals.2 _).2.1.mp ⟨_, _, rfl⟩⟩

end HarvardBench.Grammar
