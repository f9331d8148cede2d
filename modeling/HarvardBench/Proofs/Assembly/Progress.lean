import HarvardBench.Proofs.Assembly.Derivation

/-! How far a text is read.

Readers take turns on one text, and each begins where the one before it stopped, be it with a result
or with a failure. The place where a reader stops is never before the place where it began, nor behind
the end of the text. A reader that looks for something has passed at least one character when it has
found it, so the list of flags comes to an end.
-/

set_option autoImplicit false

namespace HarvardBench.Assembly

open Text Grammar

namespace Reader

variable {α β : Type}

/-- What a reader leaves is the end of what it was given, whether it succeeds or fails. -/
def LeavesEnd (reader : Reader α) : Prop := ∀ cursor, (reader.run cursor).2 <:+ cursor

/-- A reader that succeeds has passed something. -/
def Advances (reader : Reader α) : Prop :=
  ∀ ⦃cursor value rest⦄, reader.run cursor = (.ok value, rest) → rest.length < cursor.length

variable {reader first : Reader α} {next : α → Reader β}

theorem LeavesEnd.of_run {cursor rest : Cursor} {outcome : Except Failure α} (leaves : LeavesEnd reader)
    (ran : reader.run cursor = (outcome, rest)) : rest <:+ cursor := by
  have left := leaves cursor
  rwa [ran] at left

theorem leavesEnd_pure (value : α) : LeavesEnd (pure value : Reader α) := fun _ => List.suffix_rfl

theorem leavesEnd_refuse (problem : Problem) : LeavesEnd (refuse problem : Reader α) := fun _ => List.suffix_rfl

theorem LeavesEnd.bind (front : LeavesEnd first) (back : ∀ value, LeavesEnd (next value)) :
    LeavesEnd (first >>= next) := by
  intro cursor
  have left := front cursor
  rw [run_bind]
  cases ran : run first cursor with
  | mk outcome between =>
    rw [ran] at left
    cases outcome with
    | error failure => exact left
    | ok value => exact (back value between).trans left

theorem LeavesEnd.ite {asked : Prop} [Decidable asked] {yes no : Reader α} (ifAsked : LeavesEnd yes)
    (ifNot : LeavesEnd no) : LeavesEnd (if asked then yes else no) := by
  split
  · exact ifAsked
  · exact ifNot

theorem Advances.bind_left (front : Advances first) (back : ∀ value, LeavesEnd (next value)) :
    Advances (first >>= next) := by
  intro cursor value rest success
  obtain ⟨middle, between, read, readMore⟩ := run_bind_ok success
  exact Nat.lt_of_le_of_lt ((back middle).of_run readMore).length_le (front read)

theorem Advances.bind_right (front : LeavesEnd first) (back : ∀ value, Advances (next value)) :
    Advances (first >>= next) := by
  intro cursor value rest success
  obtain ⟨middle, between, read, readMore⟩ := run_bind_ok success
  exact Nat.lt_of_lt_of_le (back middle readMore) (front.of_run read).length_le

end Reader

open Reader

/-! ## Readers do not go back -/

theorem skipSpaces_suffix (cursor : Cursor) : skipSpaces cursor <:+ cursor := List.dropWhile_suffix _

theorem afterWord_suffix (cursor : Cursor) : (skipSpaces cursor).dropWhile isWordChar <:+ cursor :=
  (List.dropWhile_suffix _).trans (skipSpaces_suffix cursor)

def look : Reader (Option Char) := fun cursor => (.ok cursor.head?, cursor)

theorem leavesEnd_look : LeavesEnd look := fun _ => List.suffix_rfl

theorem leavesEnd_spaces : LeavesEnd spaces := skipSpaces_suffix

theorem leavesEnd_atEnd : LeavesEnd atEnd := skipSpaces_suffix

theorem leavesEnd_word : LeavesEnd word := fun _ => List.dropWhile_suffix _

theorem leavesEnd_comma : LeavesEnd comma := by
  intro cursor
  have skipped := skipSpaces_suffix cursor
  unfold run comma
  split
  · next rest same =>
    rw [same] at skipped
    exact ((skipSpaces_suffix rest).trans (List.suffix_cons _ rest)).trans skipped
  · exact skipped

theorem leavesEnd_endOfStatement : LeavesEnd endOfStatement := by
  intro cursor
  unfold run endOfStatement
  split
  · exact List.nil_suffix
  · exact skipSpaces_suffix cursor

theorem leavesEnd_register : LeavesEnd register := by
  intro cursor
  have passed := afterWord_suffix cursor
  simp only [run, register]
  split
  · exact passed
  · split
    · exact passed
    · split <;> exact passed

theorem leavesEnd_sigil (sign : List Char) : LeavesEnd (sigil sign) := by
  induction sign with
  | nil => exact leavesEnd_pure ()
  | cons expected sign ih =>
    intro cursor
    unfold run sigil
    split
    · next c rest =>
      split
      · exact (ih rest).trans (List.suffix_cons c rest)
      · exact List.suffix_rfl
    · exact List.suffix_rfl

theorem leavesEnd_radix : LeavesEnd radix := by
  intro cursor
  unfold run radix
  split
  · exact List.suffix_rfl
  · next c rest =>
    split
    · exact List.suffix_cons c rest
    · exact List.suffix_rfl

theorem leavesEnd_digits (base : Radix) : LeavesEnd (digits base) := by
  intro cursor
  have passed : cursor.dropWhile base.isDigit <:+ cursor := List.dropWhile_suffix _
  simp only [run, digits]
  split
  · exact passed
  · split <;> exact passed

theorem leavesEnd_number (sign : List Char) : LeavesEnd (number sign) :=
  leavesEnd_spaces.bind fun _ => (leavesEnd_sigil sign).bind fun _ => leavesEnd_radix.bind leavesEnd_digits

theorem leavesEnd_immediate : LeavesEnd immediate :=
  (leavesEnd_number ['#']).bind fun value => (leavesEnd_pure value).ite (leavesEnd_refuse _)

theorem leavesEnd_carryClause : LeavesEnd carryClause := by
  refine leavesEnd_atEnd.bind fun ended => ?_
  cases ended with
  | true => exact leavesEnd_pure false
  | false =>
    refine leavesEnd_comma.bind fun _ => leavesEnd_word.bind fun name => (leavesEnd_pure true).ite ?_
    exact fun _ => List.suffix_rfl

theorem leavesEnd_flagsAfter (seen : Flags) : LeavesEnd (flagsAfter seen) := by
  intro cursor
  change (flagsAfter seen cursor).2 <:+ cursor
  -- A flag is followed by the end of the list, or by a comma and the flags behind it.
  fun_induction flagsAfter seen cursor with
  | case1 => exact afterWord_suffix _
  | case2 => exact afterWord_suffix _
  | case3 seen cursor start name after flag known fresh more same ih =>
    have comma : ',' :: more <:+ after := same ▸ skipSpaces_suffix after
    exact ((ih.trans (List.suffix_cons ',' more)).trans comma).trans (afterWord_suffix cursor)
  | case4 seen cursor start name after flag known fresh stop =>
    exact (skipSpaces_suffix after).trans (afterWord_suffix cursor)

/-! ## Readers that pass something -/

theorem advances_comma : Advances comma := by
  intro cursor value rest success
  obtain ⟨separator, rfl, separated⟩ := comma_sound success
  cases separated
  simp only [List.length_append, List.length_cons]
  omega

theorem advances_register : Advances register := by
  intro cursor value rest success
  obtain ⟨front, name, rfl, _, spelled⟩ := register_sound success
  have some := List.length_pos_of_ne_nil ((isKeyword_register value).text_ne_nil spelled)
  rw [List.length_append, List.length_append]
  omega

theorem advances_digits (base : Radix) : Advances (digits base) := by
  intro cursor value rest success
  obtain ⟨numeral, rfl, written, _⟩ := digits_sound success
  have some := List.length_pos_of_ne_nil (digits_iff.mp written).1
  rw [List.length_append]
  omega

theorem advances_number (sign : List Char) : Advances (number sign) :=
  .bind_right leavesEnd_spaces fun _ => .bind_right (leavesEnd_sigil sign) fun _ =>
    .bind_right leavesEnd_radix advances_digits

theorem advances_immediate : Advances immediate :=
  (advances_number ['#']).bind_left fun value => (leavesEnd_pure value).ite (leavesEnd_refuse _)

theorem flagList_ne_nil {text : List Char} {named : List Flag} (list : FlagList text named) : text ≠ [] := by
  cases list with
  | single spelled => exact (isKeyword_flag _).text_ne_nil spelled
  | cons spelled _ _ => exact List.append_ne_nil_of_left_ne_nil ((isKeyword_flag _).text_ne_nil spelled) _

theorem advances_flags : Advances flags := by
  intro cursor value rest success
  obtain ⟨front, text, back, named, rfl, _, _, list, _⟩ := flagsAfter_sound success
  have some := List.length_pos_of_ne_nil (flagList_ne_nil list)
  simp only [List.length_append]
  omega

theorem gap_of_end {cursor : Cursor} (ended : (endOfStatement.run cursor).1 = .ok ()) : Gap cursor := by
  unfold run endOfStatement at ended
  split at ended
  · next same => exact gap_iff.mpr same
  · cases ended

/-! ## The list of flags -/

def optionalComma : Reader Bool := fun cursor =>
  match cursor with
  | ',' :: more => (.ok true, more)
  | stop => (.ok false, stop)

/-- One round: a flag that was not seen before, and whether a comma asks for another. -/
def flagRound (seen : Flags) : Reader (Flag × Bool) := do
  spaces
  let name ← word
  match Flag.ofName? (name.map Char.toLower) with
  | none => fun cursor => refuse (.flagName (received name cursor)) cursor
  | some flag =>
    if seen.get flag then refuse (.flagRepeated flag.name)
    else do
      spaces
      return (flag, ← optionalComma)

/-- Rounds one after another to their end, with the flags that they accept. -/
inductive FlagRounds : Flags → Cursor → List Flag → Except Failure Flags × Cursor → Prop where
  | refused {seen : Flags} {cursor rest : Cursor} {failure : Failure}
      (round : (flagRound seen).run cursor = (.error failure, rest)) :
      FlagRounds seen cursor [] (.error failure, rest)
  | last {seen : Flags} {cursor rest : Cursor} {flag : Flag}
      (round : (flagRound seen).run cursor = (.ok (flag, false), rest)) :
      FlagRounds seen cursor [flag] (.ok (seen.insert flag), rest)
  | again {seen : Flags} {cursor more : Cursor} {flag : Flag} {accepted : List Flag}
      {outcome : Except Failure Flags × Cursor}
      (round : (flagRound seen).run cursor = (.ok (flag, true), more))
      (others : FlagRounds (seen.insert flag) more accepted outcome) :
      FlagRounds seen cursor (flag :: accepted) outcome

theorem run_optionalComma {cursor : Cursor} (other : ∀ more, cursor ≠ ',' :: more) :
    optionalComma.run cursor = (.ok false, cursor) := by
  unfold run optionalComma
  split
  · next more => exact absurd rfl (other more)
  · rfl

theorem flagsAfter_eq (seen : Flags) (cursor : Cursor) :
    flagsAfter seen cursor =
      match (flagRound seen).run cursor with
      | (.error failure, rest) => (.error failure, rest)
      | (.ok (flag, false), rest) => (.ok (seen.insert flag), rest)
      | (.ok (flag, true), more) => flagsAfter (seen.insert flag) more := by
  rw [flagsAfter]
  unfold flagRound
  rw [run_bind_of_ok (show spaces.run cursor = (.ok (), skipSpaces cursor) from rfl),
    run_bind_of_ok (show word.run (skipSpaces cursor) = (.ok _, _) from rfl)]
  cases Flag.ofName? (((skipSpaces cursor).takeWhile isWordChar).map Char.toLower) with
  | none => rfl
  | some flag =>
    dsimp only
    generalize (skipSpaces cursor).dropWhile isWordChar = after
    by_cases taken : seen.get flag = true
    · rw [if_pos taken, if_pos taken]
      rfl
    · rw [if_neg taken, if_neg taken, run_bind_of_ok (show spaces.run after = (.ok (), skipSpaces after) from rfl)]
      split
      · next more same =>
        have passed : optionalComma.run (',' :: more) = (.ok true, more) := rfl
        rw [same, run_bind_of_ok passed, run_pure]
      · next other =>
        rw [run_bind_of_ok (run_optionalComma other), run_pure]

def room (seen : Flags) : Nat := (!seen.carry).toNat + (!seen.zero).toNat

theorem room_insert {seen : Flags} {flag : Flag} (fresh : seen.get flag = false) :
    room (seen.insert flag) + 1 = room seen := by
  obtain ⟨carry, zero⟩ := seen
  cases flag <;> cases carry <;> cases zero <;> first | rfl | cases fresh

theorem fresh_of_round {seen : Flags} {cursor rest : Cursor} {flag : Flag} {more : Bool}
    (round : (flagRound seen).run cursor = (.ok (flag, more), rest)) : seen.get flag = false := by
  obtain ⟨_, _, _, behindSpaces⟩ := run_bind_ok round
  obtain ⟨name, between, _, told⟩ := run_bind_ok behindSpaces
  split at told
  · cases told
  · next known _ =>
    rcases run_ite_ok told with ⟨_, refused⟩ | ⟨fresh, accepted⟩
    · cases refused
    · obtain ⟨_, _, _, behindName⟩ := run_bind_ok accepted
      obtain ⟨_, _, _, paired⟩ := run_bind_ok behindName
      obtain ⟨rfl, _⟩ := Prod.mk.inj (run_pure_ok paired).1
      exact Bool.eq_false_iff.mpr fresh

namespace FlagRounds

variable {seen : Flags} {cursor : Cursor} {accepted : List Flag} {outcome : Except Failure Flags × Cursor}

theorem length_le (rounds : FlagRounds seen cursor accepted outcome) : accepted.length ≤ room seen := by
  induction rounds with
  | refused => exact Nat.zero_le _
  | last round =>
    have := room_insert (fresh_of_round round)
    rw [List.length_singleton]
    omega
  | again round _ ih =>
    have := room_insert (fresh_of_round round)
    rw [List.length_cons]
    omega

theorem outcome_eq (rounds : FlagRounds seen cursor accepted outcome) : outcome = flagsAfter seen cursor := by
  induction rounds with
  | refused round => rw [flagsAfter_eq, round]
  | last round => rw [flagsAfter_eq, round]
  | again round _ ih => rw [flagsAfter_eq, round, ih]

end FlagRounds

theorem exists_flagRounds (seen : Flags) (cursor : Cursor) :
    ∃ accepted, FlagRounds seen cursor accepted (flagsAfter seen cursor) := by
  -- Each round but the last accepts a flag that was not seen, so there is room for fewer.
  induction count : room seen using Nat.strong_induction_on generalizing seen cursor with
  | h count ih =>
    rw [flagsAfter_eq]
    cases round : (flagRound seen).run cursor with
    | mk answer rest =>
      cases answer with
      | error failure => exact ⟨[], .refused round⟩
      | ok answer =>
        obtain ⟨flag, more⟩ := answer
        cases more with
        | false => exact ⟨[flag], .last round⟩
        | true =>
          have less := room_insert (fresh_of_round round)
          obtain ⟨accepted, others⟩ := ih (room (seen.insert flag)) (by omega) (seen.insert flag) rest rfl
          exact ⟨flag :: accepted, .again round others⟩

/-! ## Any calls, one after another -/

/-- What can be asked of a text that is being read. -/
inductive Call where
  | look | spaces | atEnd | comma | endOfStatement | word | register
  | number (sign : List Char)
  | programNumber | dataNumber | immediate | carryClause | flags
  deriving DecidableEq, Repr

namespace Call

abbrev Answer : Call → Type
  | look => Option Char
  | spaces | comma | endOfStatement => Unit
  | atEnd | carryClause => Bool
  | word => List Char
  | register => Register
  | number _ | programNumber | dataNumber | immediate => Nat
  | flags => Flags

def reader : (call : Call) → Reader call.Answer
  | look => Assembly.look
  | spaces => Assembly.spaces
  | atEnd => Assembly.atEnd
  | comma => Assembly.comma
  | endOfStatement => Assembly.endOfStatement
  | word => Assembly.word
  | register => Assembly.register
  | number sign => Assembly.number sign
  | programNumber => Assembly.programNumber
  | dataNumber => Assembly.dataNumber
  | immediate => Assembly.immediate
  | carryClause => Assembly.carryClause
  | flags => Assembly.flags

/-- The calls that look for something and do not do without it. -/
def IsSearch : Call → Prop
  | comma | register | number _ | programNumber | dataNumber | immediate | flags => True
  | look | spaces | atEnd | endOfStatement | word | carryClause => False

theorem leavesEnd (call : Call) : LeavesEnd call.reader := by
  cases call with
  | look => exact leavesEnd_look
  | spaces => exact leavesEnd_spaces
  | atEnd => exact leavesEnd_atEnd
  | comma => exact leavesEnd_comma
  | endOfStatement => exact leavesEnd_endOfStatement
  | word => exact leavesEnd_word
  | register => exact leavesEnd_register
  | number sign => exact leavesEnd_number sign
  | programNumber => exact leavesEnd_number _
  | dataNumber => exact leavesEnd_number _
  | immediate => exact leavesEnd_immediate
  | carryClause => exact leavesEnd_carryClause
  | flags => exact leavesEnd_flagsAfter {}

theorem advances {call : Call} (search : call.IsSearch) : Advances call.reader := by
  cases call with
  | look | spaces | atEnd | endOfStatement | word | carryClause => cases search
  | comma => exact advances_comma
  | register => exact advances_register
  | number sign => exact advances_number sign
  | programNumber => exact advances_number _
  | dataNumber => exact advances_number _
  | immediate => exact advances_immediate
  | flags => exact advances_flags

end Call

/-- A text and the number of its characters that have been read. -/
structure Reading where
  text : List Char
  position : Nat
  deriving DecidableEq, Repr

namespace Reading

def begun (text : List Char) : Reading := ⟨text, 0⟩

def unread (reading : Reading) : Cursor := reading.text.drop reading.position

def serve (reading : Reading) (call : Call) : Except Failure call.Answer × Reading :=
  let (answer, rest) := call.reader.run reading.unread
  (answer, { reading with position := reading.text.length - rest.length })

def next (reading : Reading) (call : Call) : Reading := (reading.serve call).2

def follow (reading : Reading) (calls : List Call) : Reading := calls.foldl next reading

variable {reading : Reading} {text : List Char}

theorem suffix_text (reading : Reading) (call : Call) :
    (call.reader.run reading.unread).2 <:+ reading.text :=
  (call.leavesEnd reading.unread).trans (List.drop_suffix _ _)

/-- The character of an index is passed by one of some calls. -/
def Consumed (reading : Reading) (calls : List Call) (index : Nat) : Prop :=
  ∃ before call after, calls = before ++ call :: after ∧ (reading.follow before).position ≤ index ∧
    index < ((reading.follow before).next call).position

theorem unread_next (reading : Reading) (call : Call) :
    (reading.next call).unread = (call.reader.run reading.unread).2 :=
  (List.suffix_iff_eq_drop.mp (reading.suffix_text call)).symm

theorem position_next (reading : Reading) (call : Call) :
    (reading.next call).position = reading.text.length - (call.reader.run reading.unread).2.length := rfl

theorem length_unread (reading : Reading) : reading.unread.length = reading.text.length - reading.position :=
  List.length_drop

theorem position_next_le (reading : Reading) (call : Call) :
    (reading.next call).position ≤ reading.text.length := Nat.sub_le _ _

theorem position_le_next (call : Call) (inside : reading.position ≤ reading.text.length) :
    reading.position ≤ (reading.next call).position := by
  have shorter := (call.leavesEnd reading.unread).length_le
  rw [length_unread] at shorter
  rw [position_next]
  omega

theorem position_lt_next {call : Call} (search : call.IsSearch) {answer : call.Answer}
    (found : (reading.serve call).1 = .ok answer) : reading.position < (reading.next call).position := by
  have ran : call.reader.run reading.unread = (.ok answer, (call.reader.run reading.unread).2) :=
    Prod.ext found rfl
  have shorter := call.advances search ran
  rw [length_unread] at shorter
  rw [position_next]
  omega

theorem text_follow (reading : Reading) (calls : List Call) : (reading.follow calls).text = reading.text := by
  induction calls generalizing reading with
  | nil => rfl
  | cons call rest ih => exact ih (reading.next call)

theorem position_follow_le (calls : List Call) (inside : reading.position ≤ reading.text.length) :
    (reading.follow calls).position ≤ reading.text.length := by
  induction calls generalizing reading with
  | nil => exact inside
  | cons call rest ih => exact ih (reading.position_next_le call)

theorem exists_consumer {index : Nat} {calls : List Call} (behind : reading.position ≤ index)
    (before : index < (reading.follow calls).position) : reading.Consumed calls index := by
  induction calls generalizing reading with
  | nil => exact absurd before (Nat.not_lt.mpr behind)
  | cons call rest ih =>
    rcases Nat.lt_or_ge index (reading.next call).position with here | later
    · exact ⟨[], call, rest, rfl, behind, here⟩
    · obtain ⟨front, consumer, back, rfl, low, high⟩ := ih later before
      exact ⟨call :: front, consumer, back, rfl, low, high⟩

/-- What holds wherever some calls have left a text, be they answered or not. -/
structure Orderly (text : List Char) (calls : List Call) (reading : Reading) : Prop where
  forward : ∀ call, reading.position ≤ (reading.next call).position ∧
    (reading.next call).position ≤ text.length ∧
    (reading.next call).unread = (call.reader.run reading.unread).2
  search : ∀ call answer, call.IsSearch → (reading.serve call).1 = .ok answer →
    reading.position < (reading.next call).position
  atEnd : ∃ ended : Bool, (reading.serve .atEnd).1 = .ok ended ∧ (ended = true ↔ Gap reading.unread)
  complete : (reading.serve .endOfStatement).1 = .ok () → ∀ index (inside : index < text.length),
    (begun text).Consumed calls index ∨ text[index] = ' ' ∨ text[index] = '\t'
  flagsEnd : ∃ accepted, FlagRounds {} reading.unread accepted (flags.run reading.unread)
  flagsFew : ∀ accepted outcome, FlagRounds {} reading.unread accepted outcome →
    accepted.length ≤ 2 ∧ outcome = flags.run reading.unread

theorem getElem_mem_drop {index position : Nat} (behind : position ≤ index) (inside : index < text.length) :
    text[index] ∈ text.drop position := by
  have here : (text.drop position)[index - position]? = some text[index] := by
    rw [List.getElem?_drop, Nat.add_sub_cancel' behind, List.getElem?_eq_getElem inside]
  exact List.mem_of_getElem? here

/-- A text is read in order by any calls, one after another. -/
theorem follow_orderly (text : List Char) (calls : List Call) :
    Orderly text calls ((begun text).follow calls) := by
  have same : ((begun text).follow calls).text = text := text_follow (begun text) calls
  have start : (begun text).position ≤ (begun text).text.length := Nat.zero_le _
  have inside : ((begun text).follow calls).position ≤ text.length := position_follow_le calls start
  have rest : ((begun text).follow calls).unread = text.drop ((begun text).follow calls).position := by
    rw [unread, same]
  refine ⟨fun call => ⟨?_, ?_, unread_next _ call⟩, fun call answer search found => position_lt_next search found,
    ⟨_, rfl, ?_⟩, fun success index inText => ?_, ?_, ?_⟩
  · exact position_le_next call (same.symm ▸ inside)
  · have before := position_next_le ((begun text).follow calls) call
    rwa [same] at before
  · exact List.isEmpty_iff.trans gap_iff.symm
  · rcases Nat.lt_or_ge index ((begun text).follow calls).position with before | behind
    · exact .inl (exists_consumer (Nat.zero_le index) before)
    · have gap := gap_of_end success
      rw [rest] at gap
      exact .inr (gap _ (getElem_mem_drop behind inText))
  · exact exists_flagRounds {} _
  · intro accepted outcome rounds
    exact ⟨rounds.length_le, rounds.outcome_eq⟩

example : ((begun "x y".toList).follow [.register, .comma]).position = 2 := by decide

end Reading

end HarvardBench.Assembly
