import HarvardBench.Proofs.Assembly.Grammar
import HarvardBench.Proofs.Assembly.Instructions
import HarvardBench.Proofs.Success

/-! Reading a statement is deriving it.

For every reader there is what a success says about the text that was taken off, and that the
reader succeeds on every text of that kind. A reader skips the spaces before it, so what it
takes off is a derivable text up to spaces. Put together, a code has a word exactly if the
grammar derives it with the number of that word.
-/

set_option autoImplicit false

namespace HarvardBench.Grammar

open Assembly Text Reader

variable {cursor rest text : List Char}

/-! ## Results and choices -/

section Choices

variable {α : Type} {asked : Prop} [Decidable asked] {yes no : Reader α}

theorem run_pure_ok {value result : α} (success : (pure value : Reader α).run cursor = (.ok result, rest)) :
    value = result ∧ cursor = rest := by
  simpa only [run_pure, Prod.mk.injEq, Except.ok.injEq] using success

theorem run_ite_ok {value : α} (success : (if asked then yes else no).run cursor = (.ok value, rest)) :
    (asked ∧ yes.run cursor = (.ok value, rest)) ∨ (¬asked ∧ no.run cursor = (.ok value, rest)) := by
  by_cases holds : asked
  · rw [if_pos holds] at success
    exact .inl ⟨holds, success⟩
  · rw [if_neg holds] at success
    exact .inr ⟨holds, success⟩

theorem run_ite_pos (holds : asked) : (if asked then yes else no).run cursor = yes.run cursor := by
  rw [if_pos holds]

end Choices

/-! ## Spaces, names and commas -/

theorem gap_iff : Gap text ↔ skipSpaces text = [] := by
  rw [skipSpaces, List.dropWhile_eq_nil_iff]
  exact forall₂_congr fun _ _ => isSpace_iff.symm

theorem Gap.append {front back : List Char} (before : Gap front) (after : Gap back) : Gap (front ++ back) :=
  List.forall_mem_append.mpr ⟨before, after⟩

theorem gap_nil : Gap [] := List.forall_mem_nil _

theorem exists_gap (cursor : Cursor) : ∃ front, Gap front ∧ cursor = front ++ skipSpaces cursor :=
  ⟨cursor.takeWhile isSpace, fun _ member => isSpace_iff.mp (List.mem_takeWhile_imp member),
    List.takeWhile_append_dropWhile.symm⟩

theorem skipSpaces_gap {front : List Char} (gap : Gap front) (stop : ∀ c ∈ rest.head?, isSpace c = false) :
    skipSpaces (front ++ rest) = rest :=
  dropWhile_append_of_stop (fun c member => isSpace_iff.mpr (gap c member)) stop

theorem Separator.pad_left {front separator : List Char} (before : Gap front)
    (separated : Separator separator) : Separator (front ++ separator) := by
  cases separated with
  | comma left right =>
    rw [← List.append_assoc]
    exact .comma (before.append left) right

theorem Separator.pad_right {separator back : List Char} (separated : Separator separator)
    (after : Gap back) : Separator (separator ++ back) := by
  cases separated with
  | comma left right =>
    rw [List.append_assoc, List.cons_append]
    exact .comma left (right.append after)

theorem Separator.stop {separator : List Char} (separated : Separator separator) :
    ∀ c ∈ (separator ++ rest).head?, isWordChar c = false := by
  cases separated with
  | @comma before after front back =>
    have marks : ∀ c ∈ before ++ [','], isWordChar c = false := by
      intro c member
      rcases List.mem_append.mp member with space | comma
      · rcases front c space with rfl | rfl <;> decide
      · obtain rfl := List.mem_singleton.mp comma
        decide
    intro c first
    apply marks c
    apply List.mem_of_mem_head?
    cases before <;> simpa using first

theorem skipSpaces_comma {before : List Char} (front : Gap before) (after : List Char) :
    skipSpaces (before ++ ',' :: after ++ rest) = ',' :: (after ++ rest) := by
  rw [List.append_assoc]
  exact skipSpaces_gap front (by simp [isSpace])

theorem comma_sound (read : comma.run cursor = (.ok (), rest)) :
    ∃ separator, cursor = separator ++ rest ∧ Separator separator := by
  obtain ⟨front, before, same⟩ := exists_gap cursor
  unfold run comma at read
  split at read
  · next more found =>
    obtain ⟨back, after, split⟩ := exists_gap more
    simp only [Prod.mk.injEq] at read
    refine ⟨front ++ ',' :: back, ?_, .comma before after⟩
    rw [same, found, ← read.2, List.append_assoc, List.cons_append, ← split]
  · cases read

theorem comma_complete {separator : List Char} (separated : Separator separator)
    (stop : ∀ c ∈ rest.head?, isSpace c = false) : comma.run (separator ++ rest) = (.ok (), rest) := by
  cases separated with
  | @comma before after front back =>
    simp only [run, comma, skipSpaces_comma front, skipSpaces_gap back stop]

/-- The lower-case names that operands are made of. -/
structure IsKeyword (name : List Char) : Prop where
  filled : name ≠ []
  small : ∀ letter ∈ name, letter.isLower = true
  named : ∀ letter ∈ name, isNameChar letter = true ∧ isNameChar letter.toUpper = true

theorem isKeyword_iff {name : List Char} :
    IsKeyword name ↔ name ≠ [] ∧ name.all (fun letter =>
      letter.isLower && (isNameChar letter && isNameChar letter.toUpper)) = true := by
  simp only [List.all_eq_true, Bool.and_eq_true]
  constructor
  · rintro ⟨filled, small, named⟩
    exact ⟨filled, fun letter member => ⟨small letter member, named letter member⟩⟩
  · rintro ⟨filled, letters⟩
    exact ⟨filled, fun letter member => (letters letter member).1, fun letter member => (letters letter member).2⟩

instance (name : List Char) : Decidable (IsKeyword name) := decidable_of_iff' _ isKeyword_iff

theorem isKeyword_register (register : Register) : IsKeyword register.name.toList := by
  cases register <;> decide

theorem isKeyword_flag (flag : Flag) : IsKeyword flag.name.toList := by
  cases flag <;> decide

section Keywords

variable {name : List Char} (keyword : IsKeyword name)

include keyword

theorem IsKeyword.spells_iff : Spells name text ↔ text.map Char.toLower = name :=
  Grammar.spells_iff keyword.small

theorem IsKeyword.isNameChar (spelled : Spells name text) : ∀ c ∈ text, isNameChar c = true := by
  intro c member
  obtain ⟨letter, own, same⟩ := exists_of_mem_forall₂ spelled.flip member
  obtain ⟨lower, upper⟩ := keyword.named letter own
  rcases same with rfl | rfl
  · exact lower
  · exact upper

theorem IsKeyword.solid (spelled : Spells name text) : ∀ c ∈ text, isWordChar c = true :=
  fun c member => isWordChar_of_isNameChar (keyword.isNameChar spelled c member)

theorem IsKeyword.text_ne_nil (spelled : Spells name text) : text ≠ [] := by
  rintro rfl
  exact keyword.filled (keyword.spells_iff.mp spelled).symm

theorem IsKeyword.stop (spelled : Spells name text) (rest : List Char) :
    ∀ c ∈ (text ++ rest).head?, isSpace c = false := by
  intro c first
  rw [List.head?_append_of_ne_nil text (keyword.text_ne_nil spelled)] at first
  exact isSpace_of_isWordChar (keyword.solid spelled c (List.mem_of_mem_head? first))

end Keywords

theorem register_sound {found : Register} (read : register.run cursor = (.ok found, rest)) :
    ∃ front name, cursor = front ++ (name ++ rest) ∧ Gap front ∧ Spells found.name.toList name := by
  obtain ⟨front, before, same⟩ := exists_gap cursor
  simp only [run, register] at read
  split at read
  · cases read
  · split at read
    · cases read
    · split at read
      · next known =>
        simp only [Prod.mk.injEq, Except.ok.injEq] at read
        obtain ⟨rfl, left⟩ := read
        refine ⟨front, (skipSpaces cursor).takeWhile isWordChar, ?_, before, ?_⟩
        · rw [← left, List.takeWhile_append_dropWhile, ← same]
        · unfold Register.ofName? at known
          have same := List.find?_some known
          exact (isKeyword_register _).spells_iff.mpr (beq_iff_eq.mp same).symm
      · cases read

theorem register_complete {found : Register} {name : List Char} (spelled : Spells found.name.toList name)
    (stop : ∀ c ∈ rest.head?, isWordChar c = false) : register.run (name ++ rest) = (.ok found, rest) :=
  run_register ((isKeyword_register found).spells_iff.mp spelled) ((isKeyword_register found).solid spelled) stop

/-! ## Numbers -/

theorem sigil_sound {sign : List Char} (read : (sigil sign).run cursor = (.ok (), rest)) :
    cursor = sign ++ rest := by
  induction sign generalizing cursor with
  | nil => exact (run_pure_ok read).2
  | cons expected sign ih =>
    cases cursor with
    | nil => cases read
    | cons c cursor =>
      simp only [run, sigil] at read
      split at read
      · next same => rw [same, ih read, List.cons_append]
      · cases read

theorem radix_sound {base : Radix} (read : Assembly.radix.run cursor = (.ok base, rest)) :
    ∃ marker, cursor = marker ++ rest ∧ Marker marker base := by
  unfold run Assembly.radix at read
  split at read
  · simp only [Prod.mk.injEq, Except.ok.injEq] at read
    obtain ⟨rfl, rfl⟩ := read
    exact ⟨[], rfl, .none⟩
  · next c tail =>
    split at read
    · next found known =>
      simp only [Prod.mk.injEq, Except.ok.injEq] at read
      obtain ⟨rfl, rfl⟩ := read
      exact ⟨[c], rfl, ofMarker?_iff.mp known⟩
    · simp only [Prod.mk.injEq, Except.ok.injEq] at read
      obtain ⟨rfl, rfl⟩ := read
      exact ⟨[], rfl, .none⟩

theorem radix_complete {base : Radix} {marker numeral : List Char} {value : Nat}
    (marked : Marker marker base) (digits : Digits base.base numeral value) (rest : List Char) :
    Assembly.radix.run (marker ++ (numeral ++ rest)) = (.ok base, numeral ++ rest) := by
  obtain ⟨filled, inside, _⟩ := digits_iff.mp digits
  -- A numeral without a letter must not begin with one, or the letter would be taken off.
  cases marker with
  | nil =>
    cases marked
    obtain ⟨c, more, rfl⟩ := List.exists_cons_of_ne_nil filled
    have unmarked : Radix.ofMarker? c = none :=
      ofMarker?_of_isDigit (isDigit_of_decimal (inside c List.mem_cons_self))
    simp [run, Assembly.radix, unmarked]
  | cons c tail =>
    obtain rfl : tail = [] := by cases marked <;> rfl
    simp [run, Assembly.radix, ofMarker?_iff.mpr marked]

theorem admits_iff {base : Radix} {count : Nat} :
    base.admits count = true ↔ (base = .decimal → count ≤ decimalLimit) := by
  cases base <;> simp [Radix.admits, admitsIn, Radix.base]

theorem digits_sound {base : Radix} {value : Nat} (read : (digits base).run cursor = (.ok value, rest)) :
    ∃ numeral, cursor = numeral ++ rest ∧ Digits base.base numeral value ∧
      (base = .decimal → numeral.length ≤ decimalLimit) := by
  simp only [run, digits] at read
  split at read
  · cases read
  · next filled =>
    split at read
    · next admitted =>
      simp only [Prod.mk.injEq, Except.ok.injEq] at read
      obtain ⟨same, left⟩ := read
      have inside : ∀ c ∈ cursor.takeWhile base.isDigit, base.isDigit c = true :=
        fun _ member => List.mem_takeWhile_imp member
      refine ⟨cursor.takeWhile base.isDigit, ?_, ?_, admits_iff.mp admitted⟩
      · rw [← left, List.takeWhile_append_dropWhile]
      · exact digits_iff.mpr ⟨by simpa using filled, inside, same⟩
    · cases read

theorem number_sound {sign : List Char} {value : Nat} (read : (number sign).run cursor = (.ok value, rest)) :
    ∃ front numeral, cursor = front ++ (sign ++ (numeral ++ rest)) ∧ Gap front ∧ Numeral numeral value := by
  obtain ⟨_, start, skipped, signedRead⟩ := run_bind_ok read
  obtain ⟨_, between, signed, markedRead⟩ := run_bind_ok signedRead
  obtain ⟨base, unmarked, marked, digitsRead⟩ := run_bind_ok markedRead
  obtain ⟨front, before, same⟩ := exists_gap cursor
  obtain ⟨marker, rfl, letter⟩ := radix_sound marked
  obtain ⟨numeral, rfl, digits, short⟩ := digits_sound digitsRead
  simp only [run, spaces, Prod.mk.injEq] at skipped
  refine ⟨front, marker ++ numeral, ?_, before, .digits letter digits short⟩
  rw [same, skipped.2, sigil_sound signed, List.append_assoc]

theorem number_complete {sign numeral : List Char} {value : Nat} (signed : sign ≠ [])
    (solid : ∀ c ∈ sign, isSpace c = false) (written : Numeral numeral value) :
    (number sign).run (sign ++ numeral) = (.ok value, []) := by
  cases written with
  | @digits marker numeral base _ marked digits short =>
    obtain ⟨filled, inside, same⟩ := digits_iff.mp digits
    have read := run_number signed solid (radix_complete marked digits []) inside filled nofun
    rwa [if_pos (admits_iff.mpr short), same, List.append_nil] at read

/-! ## The carry clause -/

theorem carryClause_sound {chained : Bool} (read : carryClause.run cursor = (.ok chained, rest)) :
    (chained = false ∧ Gap cursor) ∨
      (chained = true ∧ ∃ separator clause, cursor = separator ++ (clause ++ rest) ∧
        Separator separator ∧ Spells Flag.carry.name.toList clause) := by
  obtain ⟨ended, between, looked, clauseRead⟩ := run_bind_ok read
  simp only [run, atEnd, Prod.mk.injEq, Except.ok.injEq] at looked
  obtain ⟨same, rfl⟩ := looked
  -- The list of operands ends here, or the clause follows behind a comma.
  cases ended with
  | true =>
    exact .inl ⟨(run_pure_ok clauseRead).1.symm, gap_iff.mpr (List.isEmpty_iff.mp same)⟩
  | false =>
    obtain ⟨_, start, separatorRead, nameRead⟩ := run_bind_ok clauseRead
    obtain ⟨name, back, wordRead, told⟩ := run_bind_ok nameRead
    obtain ⟨front, before, padded⟩ := exists_gap cursor
    obtain ⟨separator, split, separated⟩ := comma_sound separatorRead
    simp only [run, word, Prod.mk.injEq, Except.ok.injEq] at wordRead
    obtain ⟨rfl, rfl⟩ := wordRead
    rcases run_ite_ok told with ⟨known, told⟩ | ⟨_, told⟩
    · obtain ⟨rfl, rfl⟩ := run_pure_ok told
      refine .inr ⟨rfl, front ++ separator, start.takeWhile isWordChar, ?_, separated.pad_left before,
        (isKeyword_flag .carry).spells_iff.mpr known⟩
      rw [List.takeWhile_append_dropWhile, List.append_assoc, ← split, ← padded]
    · cases told

theorem carryClause_complete {separator clause : List Char} (separated : Separator separator)
    (named : Spells Flag.carry.name.toList clause) : carryClause.run (separator ++ clause) = (.ok true, []) := by
  have keyword := isKeyword_flag .carry
  have stop : ∀ c ∈ clause.head?, isSpace c = false := by
    simpa using keyword.stop named []
  cases separated with
  | @comma before after front back =>
    -- Looking for the end skips the spaces before the comma, so a shorter separator is left.
    have looked : atEnd.run (before ++ ',' :: after ++ clause) = (.ok false, ',' :: (after ++ clause)) := by
      simp only [run, atEnd, skipSpaces_comma front, List.isEmpty_cons]
    have separated : comma.run (',' :: (after ++ clause)) = (.ok (), clause) :=
      comma_complete (.comma gap_nil back) stop
    have taken : word.run clause = (.ok clause, []) := by
      simp only [run, word, List.takeWhile_eq_self_iff.mpr (keyword.solid named),
        List.dropWhile_eq_nil_iff.mpr (keyword.solid named)]
    unfold carryClause
    rw [run_bind_of_ok looked]
    simp only [Bool.false_eq_true, if_false]
    rw [run_bind_of_ok separated, run_bind_of_ok taken]
    exact run_ite_pos (keyword.spells_iff.mp named)

/-! ## Lists of flags -/

/-- The flags that are found are those seen before and those named. -/
def Adds (seen : Flags) (named : List Flag) (found : Flags) : Prop :=
  ∀ flag, found.get flag = true ↔ seen.get flag = true ∨ flag ∈ named

theorem get_insert_iff {flags : Flags} {flag other : Flag} :
    (flags.insert flag).get other = true ↔ flags.get other = true ∨ other = flag := by
  cases flag <;> cases other <;> simp [Flags.insert, Flags.get]

theorem adds_single (seen : Flags) (flag : Flag) : Adds seen [flag] (seen.insert flag) := by
  intro other
  rw [get_insert_iff, List.mem_singleton]

theorem Adds.cons {seen found : Flags} {flag : Flag} {named : List Flag}
    (adds : Adds (seen.insert flag) named found) : Adds seen (flag :: named) found := by
  intro other
  rw [adds other, get_insert_iff, List.mem_cons, or_assoc]

theorem flagsAfter_sound {seen found : Flags} (read : flagsAfter seen cursor = (.ok found, rest)) :
    ∃ front text back named, cursor = front ++ (text ++ (back ++ rest)) ∧ Gap front ∧ Gap back ∧
      FlagList text named ∧ named.Nodup ∧ (∀ flag ∈ named, ¬seen.get flag = true) ∧
      Adds seen named found := by
  have spelled {flag : Flag} {name : List Char} (known : Flag.ofName? (name.map Char.toLower) = some flag) :
      Spells flag.name.toList name := by
    unfold Flag.ofName? at known
    have same := List.find?_some known
    exact (isKeyword_flag flag).spells_iff.mpr (beq_iff_eq.mp same).symm
  -- The reader goes from flag to flag, and what it has seen are the flags before.
  fun_induction flagsAfter seen cursor with
  | case1 => cases read
  | case2 => cases read
  | case3 seen cursor start name after flag known fresh more same ih =>
    obtain ⟨inner, text, back, named, rfl, inside, behind, list, once, unseen, adds⟩ :=
      ih read
    obtain ⟨front, before, padded⟩ := exists_gap cursor
    obtain ⟨outer, outside, split⟩ := exists_gap after
    -- The flags behind it were not seen yet when this one was.
    have others : flag ∉ named := by
      intro member
      exact unseen flag member (get_insert_iff.mpr (.inr rfl))
    refine ⟨front, name ++ ((outer ++ ',' :: inner) ++ text), back, flag :: named, ?_, before, behind,
      .cons (spelled known) (.comma outside inside) list, List.nodup_cons.mpr ⟨others, once⟩, ?_, adds.cons⟩
    · have written : start = name ++ after := List.takeWhile_append_dropWhile.symm
      rw [padded, show skipSpaces cursor = start from rfl, written, split, same]
      simp
    · intro other member
      rcases List.mem_cons.mp member with rfl | later
      · exact fresh
      · exact fun taken => unseen other later (get_insert_iff.mpr (.inl taken))
  | case4 seen cursor start name after flag known fresh stop =>
    simp only [Prod.mk.injEq, Except.ok.injEq] at read
    obtain ⟨rfl, rfl⟩ := read
    obtain ⟨front, before, padded⟩ := exists_gap cursor
    obtain ⟨outer, outside, split⟩ := exists_gap after
    refine ⟨front, name, outer, [flag], ?_, before, outside, .single (spelled known),
      List.nodup_cons.mpr ⟨List.not_mem_nil, List.nodup_nil⟩, ?_, adds_single seen flag⟩
    · have written : start = name ++ after := List.takeWhile_append_dropWhile.symm
      rw [padded, show skipSpaces cursor = start from rfl, written, ← split]
    · intro other member
      obtain rfl := List.mem_singleton.mp member
      exact fresh

theorem flagsAfter_word {seen : Flags} {flag : Flag} {front text : List Char} (rest : List Char)
    (before : Gap front) (named : Spells flag.name.toList text) (stop : ∀ c ∈ rest.head?, isWordChar c = false)
    (fresh : ¬seen.get flag = true) :
    flagsAfter seen (front ++ (text ++ rest)) =
      match skipSpaces rest with
      | ',' :: more => flagsAfter (seen.insert flag) more
      | stop => (.ok (seen.insert flag), stop) := by
  have keyword := isKeyword_flag flag
  have skipped := skipSpaces_gap before (keyword.stop named rest)
  have known : Flag.ofName? flag.name.toList = some flag := by cases flag <;> rfl
  have taken : (skipSpaces (front ++ (text ++ rest))).takeWhile isWordChar = text := by
    rw [skipped, takeWhile_append_of_stop (keyword.solid named) stop]
  have left : (skipSpaces (front ++ (text ++ rest))).dropWhile isWordChar = rest := by
    rw [skipped, dropWhile_append_of_stop (keyword.solid named) stop]
  rw [flagsAfter]
  simp only [taken, keyword.spells_iff.mp named, known, if_neg fresh]
  split
  · next more same =>
    rw [left] at same
    simp only [same]
  · next other =>
    rw [left] at other ⊢
    split
    · next more same => exact absurd same (other more)
    · rfl

theorem flagsAfter_complete {seen : Flags} {named : List Flag} {front : List Char} (list : FlagList text named)
    (once : named.Nodup) (unseen : ∀ flag ∈ named, ¬seen.get flag = true) (before : Gap front) :
    ∃ found, flagsAfter seen (front ++ text) = (.ok found, []) ∧ Adds seen named found := by
  -- The list is read from the left, and what was seen grows by the flag that is read.
  induction list generalizing seen front with
  | @single text flag spelled =>
    have fresh := unseen flag (List.mem_singleton_self flag)
    have read := flagsAfter_word [] before spelled nofun fresh
    rw [List.append_nil] at read
    exact ⟨_, read, adds_single seen flag⟩
  | @cons text separator others flag named spelled separated more ih =>
    obtain ⟨first, later⟩ := List.nodup_cons.mp once
    obtain ⟨fresh, still⟩ := List.forall_mem_cons.mp unseen
    have read := flagsAfter_word (separator ++ others) before spelled separated.stop fresh
    cases separated with
    | @comma outer inner outside inside =>
      have unseenLater : ∀ other ∈ named, ¬(seen.insert flag).get other = true := by
        intro other member taken
        rcases get_insert_iff.mp taken with earlier | rfl
        · exact still other member earlier
        · exact first member
      obtain ⟨found, readMore, adds⟩ := ih later unseenLater inside
      rw [skipSpaces_comma outside] at read
      exact ⟨found, read.trans readMore, adds.cons⟩

end HarvardBench.Grammar
