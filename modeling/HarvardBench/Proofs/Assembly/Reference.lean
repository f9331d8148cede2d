import HarvardBench.Assembly.Reference
import HarvardBench.Proofs.Symbols
import HarvardBench.Proofs.Text.Decimal
import HarvardBench.Proofs.Text.Trimming
import Mathlib.Data.List.Basic

/-! Where operands refer to labels, and what resolving does to them.

A reference is said without the splitting into pieces: a name that stands free before
it, goes on as far as it can and is not reserved. Splitting finds exactly these, and
resolving replaces them and nothing else.
-/

set_option autoImplicit false

namespace HarvardBench.Assembly

open Text

/-- A name between two texts: it is not attached to the first, and the second does not go
on with it. -/
structure Standing (before name after : List Char) : Prop where
  named : isName name = true
  free : ∀ c ∈ before.getLast?, isWordChar c = false ∧ c ≠ '$' ∧ c ≠ '#'
  whole : ∀ c ∈ after.head?, isNameChar c = false

/-- A label is referred to where its name stands somewhere in the operands. -/
def Refers (operands : List Char) (label : String) : Prop :=
  isReserved label.toList = false ∧
    ∃ before after, operands = before ++ (label.toList ++ after) ∧ Standing before label.toList after

theorem isNameChar_of_isDigit {c : Char} (digit : c.isDigit = true) : isNameChar c = true := by
  simp [isNameChar_eq, digit]

theorem isNameChar_of_mem_name {name : List Char} (named : isName name = true) :
    ∀ c ∈ name, isNameChar c = true := by
  cases name with
  | nil => simp
  | cons head rest =>
    simp only [isName, Bool.and_eq_true, List.all_eq_true] at named
    intro c member
    rcases List.mem_cons.mp member with rfl | later
    · exact isNameChar_of_isNameStart named.1
    · exact named.2 c later

namespace Piece

theorem attaches_eq_false_iff {c : Char} :
    attaches c = false ↔ isWordChar c = false ∧ c ≠ '$' ∧ c ≠ '#' := by
  simp [attaches, and_assoc]

theorem flatMap_text_split (attached : Bool) (text : List Char) :
    (split attached text).flatMap Piece.text = text := by
  fun_induction split attached text with
  | case1 => rfl
  | case2 attached c rest _ ih =>
    rw [List.flatMap_cons, ih]
    simp [Piece.text]
  | case3 attached c rest _ ih =>
    rw [List.flatMap_cons, ih]
    rfl

theorem text_ne_nil_of_mem_split {attached : Bool} {text : List Char} {piece : Piece}
    (member : piece ∈ split attached text) : piece.text ≠ [] := by
  fun_induction split attached text with
  | case1 => simp at member
  | case2 attached c rest _ ih =>
    rcases List.mem_cons.mp member with rfl | later
    · simp [Piece.text]
    · exact ih later
  | case3 attached c rest _ ih =>
    rcases List.mem_cons.mp member with rfl | later
    · simp [Piece.text]
    · exact ih later

theorem standing_of_mem_split {attached : Bool} {text name : List Char}
    (member : Piece.name name ∈ split attached text) :
    ∃ before after, text = before ++ (name ++ after) ∧ Standing before name after ∧
      (before = [] → attached = false) := by
  fun_induction split attached text with
  | case1 => simp at member
  | case2 attached c rest starts ih =>
    simp only [Bool.and_eq_true, Bool.not_eq_true'] at starts
    -- The name is the run of letters that starts here, or it stands behind this run.
    rcases List.mem_cons.mp member with same | later
    · obtain rfl : name = c :: rest.takeWhile isNameChar := Piece.name.inj same
      refine ⟨[], rest.dropWhile isNameChar, by simp, ⟨?_, by simp, stop_dropWhile rest⟩, fun _ => starts.1⟩
      simp only [isName, starts.2, Bool.true_and, List.all_eq_true]
      exact fun d => List.mem_takeWhile_imp
    · obtain ⟨before, after, split, standing, front⟩ := ih later
      have filled : before ≠ [] := fun none => by simpa using front none
      refine ⟨c :: rest.takeWhile isNameChar ++ before, after, ?_, ⟨standing.named, ?_, standing.whole⟩,
        by simp⟩
      · conv => lhs; rw [← List.takeWhile_append_dropWhile (p := isNameChar) (l := rest), split]
        simp
      · rw [List.getLast?_append_of_ne_nil _ filled]
        exact standing.free
  | case3 attached c rest starts ih =>
    rcases List.mem_cons.mp member with same | later
    · simp at same
    · obtain ⟨before, after, split, standing, front⟩ := ih later
      refine ⟨c :: before, after, by simp [split], ⟨standing.named, ?_, standing.whole⟩, by simp⟩
      cases before with
      | nil =>
        have := attaches_eq_false_iff.mp (front rfl)
        simpa using this
      | cons d before =>
        simpa using standing.free

theorem mem_split_of_standing {attached : Bool} {text before name after : List Char}
    (laidOut : text = before ++ (name ++ after)) (standing : Standing before name after)
    (front : before = [] → attached = false) : Piece.name name ∈ split attached text := by
  obtain ⟨start, tail, rfl⟩ : ∃ start tail, name = start :: tail :=
    List.exists_cons_of_ne_nil (fun none => by simpa [none, isName] using standing.named)
  have inside : ∀ c ∈ tail, isNameChar c = true :=
    fun c member => isNameChar_of_mem_name standing.named c (List.mem_cons_of_mem start member)
  have starting : isNameStart start = true := by
    have := standing.named
    simp only [isName, Bool.and_eq_true] at this
    exact this.1
  fun_induction split attached text generalizing before with
  | case1 => simp at laidOut
  | case2 attached c rest starts ih =>
    cases before with
    | nil =>
      simp only [List.nil_append, List.cons_append, List.cons.injEq] at laidOut
      obtain ⟨rfl, rfl⟩ := laidOut
      rw [takeWhile_append_of_stop inside standing.whole]
      exact List.mem_cons_self
    | cons d before =>
      simp only [List.cons_append, List.cons.injEq] at laidOut
      obtain ⟨rfl, laidOut⟩ := laidOut
      apply List.mem_cons_of_mem
      -- The piece in front ends within `before`: a standing name cannot follow a name.
      have ends : before.dropWhile isNameChar ≠ [] := by
        intro all
        have start : isNameChar c = true := by
          simp only [Bool.and_eq_true] at starts
          exact isNameChar_of_isNameStart starts.2
        have named : ∀ e ∈ c :: before, isNameChar e = true := by
          simpa [start] using List.dropWhile_eq_nil_iff.mp all
        have last := List.getLast?_eq_some_getLast (l := c :: before) (by simp)
        have word := isWordChar_of_isNameChar (named _ (List.getLast_mem (l := c :: before) (by simp)))
        simp [(standing.free _ last).1] at word
      have shorter : rest.dropWhile isNameChar =
          before.dropWhile isNameChar ++ (start :: tail ++ after) := by
        rw [laidOut, List.dropWhile_append, if_neg (by simpa using ends)]
        rfl
      refine ih (fun none => absurd none ends) shorter ⟨standing.named, ?_, standing.whole⟩
      intro e last
      exact standing.free e (getLast?_cons_of_mem (getLast?_dropWhile last))
  | case3 attached c rest starts ih =>
    cases before with
    | nil =>
      simp only [List.nil_append, List.cons_append, List.cons.injEq] at laidOut
      simp [front rfl, laidOut.1, starting] at starts
    | cons d before =>
      simp only [List.cons_append, List.cons.injEq] at laidOut
      obtain ⟨rfl, laidOut⟩ := laidOut
      apply List.mem_cons_of_mem
      refine ih ?_ laidOut ⟨standing.named, ?_, standing.whole⟩
      · rintro rfl
        exact attaches_eq_false_iff.mpr (standing.free c (by simp))
      · intro e last
        exact standing.free e (getLast?_cons_of_mem last)

theorem reference?_eq_some_iff {piece : Piece} {label : String} :
    piece.reference? = some label ↔ piece = .name label.toList ∧ isReserved label.toList = false := by
  cases piece with
  | other c => simp [reference?]
  | name name =>
    simp only [reference?, Piece.name.injEq]
    constructor
    · intro refers
      split at refers
      · simp at refers
      · next free =>
        obtain rfl : String.ofList name = label := Option.some.inj refers
        exact ⟨String.toList_ofList.symm, by simpa using free⟩
    · rintro ⟨rfl, free⟩
      simp [free]

end Piece

/-- The pieces that refer to labels are the references. -/
theorem refers_iff {operands : List Char} {label : String} :
    Refers operands label ↔
      ∃ piece ∈ Piece.split false operands, piece.reference? = some label := by
  constructor
  · rintro ⟨free, before, after, laidOut, standing⟩
    have member := Piece.mem_split_of_standing laidOut standing fun _ => rfl
    exact ⟨.name label.toList, member, Piece.reference?_eq_some_iff.mpr ⟨rfl, free⟩⟩
  · rintro ⟨piece, member, refers⟩
    obtain ⟨rfl, free⟩ := Piece.reference?_eq_some_iff.mp refers
    obtain ⟨before, after, laidOut, standing, _⟩ := Piece.standing_of_mem_split member
    exact ⟨free, before, after, laidOut, standing⟩

/-! ## Resolving -/

def addressText (address : Int) : List Char := ("$$d" ++ toString address).toList

@[simp] theorem addressText_ofNat (address : Nat) :
    addressText address = ['$', '$'] ++ (['d'] ++ Nat.toDigits 10 address) := by
  have printed : toString (address : Int) = toString address := rfl
  simp [addressText, printed]

section Resolving

variable {symbols : Symbols} {resolved : List Char}

theorem Piece.resolve_of_none {piece : Piece} (none : piece.reference? = none) :
    piece.resolve symbols = .ok piece.text := by
  simp [Piece.resolve, none]

theorem Piece.resolve_eq_ok_iff {piece : Piece} {label : String}
    (refers : piece.reference? = some label) :
    piece.resolve symbols = .ok resolved ↔
      ∃ address, symbols.get? label = some address ∧ resolved = addressText address := by
  unfold Piece.resolve
  rw [refers]
  cases known : symbols.get? label with
  | none => simp [known]
  | some address => simp [known, addressText, eq_comm]

theorem resolvePieces_cons_ok {piece : Piece} {rest : List Piece} :
    resolvePieces symbols (piece :: rest) = .ok resolved ↔
      ∃ front back, piece.resolve symbols = .ok front ∧ resolvePieces symbols rest = .ok back ∧
        resolved = front ++ back := by
  simp only [resolvePieces]
  cases piece.resolve symbols with
  | error problem => simp [bind, Except.bind]
  | ok front =>
    cases resolvePieces symbols rest with
    | error problem => simp [bind, Except.bind]
    | ok back => simp [bind, Except.bind, pure, Except.pure, eq_comm]

theorem resolvePieces_append_ok {front back : List Piece} :
    resolvePieces symbols (front ++ back) = .ok resolved ↔
      ∃ before after, resolvePieces symbols front = .ok before ∧
        resolvePieces symbols back = .ok after ∧ resolved = before ++ after := by
  induction front generalizing resolved with
  | nil => simp [resolvePieces, eq_comm]
  | cons piece front ih =>
    simp only [List.cons_append, resolvePieces_cons_ok, ih]
    constructor
    · rintro ⟨first, _, read, ⟨middle, last, readMiddle, readLast, rfl⟩, rfl⟩
      exact ⟨first ++ middle, last, ⟨first, middle, read, readMiddle, rfl⟩, readLast, by simp⟩
    · rintro ⟨_, last, ⟨first, middle, read, readMiddle, rfl⟩, readLast, rfl⟩
      exact ⟨first, middle ++ last, read, ⟨middle, last, readMiddle, readLast, rfl⟩, by simp⟩

theorem resolvePieces_of_none {pieces : List Piece} (none : ∀ piece ∈ pieces, piece.reference? = none) :
    resolvePieces symbols pieces = .ok (pieces.flatMap Piece.text) := by
  induction pieces with
  | nil => rfl
  | cons piece rest ih =>
    rw [resolvePieces_cons_ok]
    exact ⟨piece.text, rest.flatMap Piece.text, Piece.resolve_of_none (none piece (by simp)),
      ih fun other member => none other (List.mem_cons_of_mem piece member), rfl⟩

theorem resolveOperands_of_none {operands : List Char} (none : ∀ label, ¬ Refers operands label) :
    resolveOperands symbols operands = .ok operands := by
  unfold resolveOperands
  rw [resolvePieces_of_none, Piece.flatMap_text_split]
  intro piece member
  cases refers : piece.reference? with
  | none => rfl
  | some label => exact absurd (refers_iff.mpr ⟨piece, member, refers⟩) (none label)

theorem Piece.split_name {name : List Char} (named : isName name = true) :
    Piece.split false name = [.name name] := by
  cases name with
  | nil => simp [isName] at named
  | cons c rest =>
    simp only [isName, Bool.and_eq_true, List.all_eq_true] at named
    rw [Piece.split, if_pos (by simp [named.1]), List.takeWhile_eq_self_iff.mpr named.2,
      List.dropWhile_eq_nil_iff.mpr named.2, Piece.split]

theorem resolveOperands_label {label : String} {address : Int} (named : isName label.toList = true)
    (free : isReserved label.toList = false) (known : symbols.get? label = some address) :
    resolveOperands symbols label.toList = .ok (addressText address) := by
  have refers := Piece.reference?_eq_some_iff.mpr ⟨rfl, free⟩
  unfold resolveOperands
  rw [Piece.split_name named, resolvePieces_cons_ok]
  exact ⟨addressText address, [], (Piece.resolve_eq_ok_iff refers).mpr ⟨address, known, rfl⟩, rfl, by simp⟩

theorem Refers.isName {operands : List Char} {label : String} (refers : Refers operands label) :
    isName label.toList = true := by
  obtain ⟨_, before, after, _, standing⟩ := refers
  exact standing.named

/-! Resolving takes no blanks in at either end of the operands. -/

section Ends

variable (natural : ∀ entry ∈ symbols, 0 ≤ entry.2)

include natural

theorem addressText_of_known {label : String} {address : Int} (known : symbols.get? label = some address) :
    ∃ n : Nat, address = n ∧ addressText address = ['$', '$'] ++ (['d'] ++ Nat.toDigits 10 n) := by
  obtain ⟨n, rfl⟩ := Int.eq_ofNat_of_zero_le (natural _ (Table.mem_of_get? known))
  exact ⟨n, rfl, addressText_ofNat n⟩

theorem Piece.resolve_ends {piece : Piece} (success : piece.resolve symbols = .ok resolved)
    (filled : piece.text ≠ []) :
    resolved ≠ [] ∧
      ((∀ c ∈ piece.text.head?, isBlank c = false) → ∀ c ∈ resolved.head?, isBlank c = false) ∧
      ((∀ c ∈ piece.text.getLast?, isBlank c = false) → ∀ c ∈ resolved.getLast?, isBlank c = false) := by
  cases refers : piece.reference? with
  | none =>
    rw [Piece.resolve_of_none refers] at success
    obtain rfl := Except.ok.inj success
    exact ⟨filled, id, id⟩
  | some label =>
    obtain ⟨address, known, rfl⟩ := (Piece.resolve_eq_ok_iff refers).mp success
    obtain ⟨n, rfl, written⟩ := addressText_of_known natural known
    rw [written]
    refine ⟨by simp, fun _ => by simp [show isBlank '$' = false by decide], fun _ c last => ?_⟩
    rw [List.getLast?_append_of_ne_nil _ (by simp),
      List.getLast?_append_of_ne_nil _ Nat.toDigits_ne_nil] at last
    exact isBlank_of_isDigit (isDigit_of_mem_toDigits (List.mem_of_mem_getLast? last))

theorem resolveOperands_front {operands : List Char} (front : ∀ c ∈ operands.head?, isBlank c = false)
    (filled : operands ≠ []) (success : resolveOperands symbols operands = .ok resolved) :
    resolved ≠ [] ∧ ∀ c ∈ resolved.head?, isBlank c = false := by
  have whole := Piece.flatMap_text_split false operands
  unfold resolveOperands at success
  cases pieces : Piece.split false operands with
  | nil =>
    rw [pieces] at whole
    exact absurd whole.symm filled
  | cons piece rest =>
    have text : piece.text ≠ [] :=
      Piece.text_ne_nil_of_mem_split (by rw [pieces]; exact List.mem_cons_self)
    rw [pieces] at success whole
    obtain ⟨here, after, read, _, rfl⟩ := resolvePieces_cons_ok.mp success
    obtain ⟨some, head, _⟩ := Piece.resolve_ends natural read text
    rw [List.head?_append_of_ne_nil here some]
    refine ⟨by simp [some], head fun c first => front c ?_⟩
    rw [← whole, List.flatMap_cons, List.head?_append_of_ne_nil _ text]
    exact first

theorem resolveOperands_trimmed {operands : List Char} (trimmed : Trimmed operands) (filled : operands ≠ [])
    (success : resolveOperands symbols operands = .ok resolved) : Trimmed resolved ∧ resolved ≠ [] := by
  obtain ⟨some, front⟩ := resolveOperands_front natural trimmed.front filled success
  refine ⟨⟨front, ?_⟩, some⟩
  have whole := Piece.flatMap_text_split false operands
  have texts {piece : Piece} (member : piece ∈ Piece.split false operands) : piece.text ≠ [] :=
    Piece.text_ne_nil_of_mem_split member
  unfold resolveOperands at success
  generalize Piece.split false operands = pieces at *
  obtain rfl | ⟨rest, piece, rfl⟩ := List.eq_nil_or_concat pieces
  · exact absurd whole.symm filled
  · rw [List.concat_eq_append] at success whole
    obtain ⟨before, after, _, later, rfl⟩ := resolvePieces_append_ok.mp success
    obtain ⟨here, none, read, done, rfl⟩ := resolvePieces_cons_ok.mp later
    obtain rfl := Except.ok.inj done
    obtain ⟨some, _, last⟩ := Piece.resolve_ends natural read (texts (by simp))
    rw [List.append_nil, List.getLast?_append_of_ne_nil before some]
    refine last fun c final => trimmed.back c ?_
    rw [← whole, List.flatMap_append, List.flatMap_singleton,
      List.getLast?_append_of_ne_nil _ (texts (by simp))]
    exact final

end Ends

end Resolving

end HarvardBench.Assembly
