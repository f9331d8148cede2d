import HarvardBench.Isa.Disassembly
import HarvardBench.Proofs.Assembly.Codes
import HarvardBench.Proofs.Assembly.Instructions

/-! Printed statements are read back.

All that is printed between spaces and commas consists of name characters and signs, so
the parts of a statement are found again. Printed operands refer to no label, unless a
label is shown for an address, which then is the only operand of a branch.
-/

set_option autoImplicit false

namespace HarvardBench.Assembly

open Text

/-! ## Characters of printed texts -/

def isPlain (c : Char) : Bool := isNameChar c || c == '$' || c == '#'

theorem isBlank_of_isPlain {c : Char} (plain : isPlain c = true) : isBlank c = false := by
  simp only [isPlain, Bool.or_eq_true, beq_iff_eq] at plain
  rcases plain with (named | rfl) | rfl
  · have range := toNat_of_isNameChar named
    simp only [isBlank, Bool.or_eq_false_iff, Bool.and_eq_false_iff, decide_eq_false_iff_not,
      beq_eq_false_iff_ne]
    omega
  · decide
  · decide

theorem not_plain {c : Char} (mark : c ∈ ['\n', ':', ';']) : isPlain c = false := by
  simp only [List.mem_cons, List.not_mem_nil, or_false] at mark
  rcases mark with rfl | rfl | rfl <;> decide

/-- A part of a statement: one plain character at least and no others. -/
def IsPart (text : List Char) : Prop := text ≠ [] ∧ ∀ c ∈ text, isPlain c = true

instance (text : List Char) : Decidable (IsPart text) :=
  decidable_of_iff (text ≠ [] ∧ text.all isPlain = true) (by simp [IsPart])

theorem IsPart.append {front back : List Char} (left : IsPart front) (right : IsPart back) :
    IsPart (front ++ back) :=
  ⟨by simp [left.1], fun c member => (List.mem_append.mp member).elim (left.2 c) (right.2 c)⟩

theorem isPart_name {name : List Char} (named : isName name = true) : IsPart name := by
  refine ⟨fun none => by simp [none, isName] at named, fun c member => ?_⟩
  simp [isPlain, isNameChar_of_mem_name named c member]

theorem isPart_register (register : Register) : IsPart register.name.toList := by
  cases register <;> decide

theorem isPart_opcode (opcode : Opcode) : IsPart opcode.name.toList := by
  cases opcode <;> decide

theorem isPart_toDigits (n : Nat) : IsPart (Nat.toDigits 10 n) := by
  refine ⟨Nat.toDigits_ne_nil, fun c member => ?_⟩
  simp [isPlain, isNameChar_of_isDigit (isDigit_of_mem_toDigits member)]

theorem isPart_operands (instruction : Instruction) :
    ∀ operand ∈ instruction.operands, IsPart operand.toList := by
  have pair (first second : Register) (chained : Bool) :
      ∀ operand ∈ Instruction.pairOperands first second chained, IsPart operand.toList := by
    cases first <;> cases second <;> cases chained <;> decide
  have flag (flags : Flags) : ∀ operand ∈ Instruction.flagOperands flags, IsPart operand.toList := by
    obtain ⟨carry, zero⟩ := flags
    cases carry <;> cases zero <;> decide
  have signed {sign : String} (plain : IsPart sign.toList) (n : Nat) :
      IsPart (sign ++ toString n).toList := by
    rw [String.toList_append]
    exact plain.append (by simpa using isPart_toDigits n)
  have dollar : IsPart "$".toList := by decide
  have dollars : IsPart "$$".toList := by decide
  have hash : IsPart "#".toList := by decide
  cases instruction with
  | hlt | ret => simp [Instruction.operands]
  | add first second chained | sub first second chained | cmp first second chained =>
    exact pair first second chained
  | nand first second => exact pair first second false
  | stb flags | clb flags => exact flag flags
  | shr first => exact List.forall_mem_singleton.mpr (isPart_register first)
  | ldi first value =>
    exact List.forall_mem_cons.mpr
      ⟨isPart_register first, List.forall_mem_singleton.mpr (signed hash value.toNat)⟩
  | lod first address | str first address =>
    exact List.forall_mem_cons.mpr
      ⟨isPart_register first, List.forall_mem_singleton.mpr (signed dollar address.toNat)⟩
  | jmp target | jc target | jz target | call target =>
    exact List.forall_mem_singleton.mpr (signed dollars target.toNat)

/-! ## The parts of a statement -/

theorem solid_of_isPart {text : List Char} (part : IsPart text) : ∀ c ∈ text, isBlank c = false :=
  fun c member => isBlank_of_isPlain (part.2 c member)

theorem trimmed_of_isPart {text : List Char} (part : IsPart text) : Trimmed text where
  front := fun c first => solid_of_isPart part c (List.mem_of_mem_head? first)
  back := fun c last => solid_of_isPart part c (List.mem_of_mem_getLast? last)

/-- Joined operands are trimmed, and hold no mark of a line, a label or a comment. -/
structure IsBare (text : List Char) : Prop where
  trimmed : Trimmed text
  filled : text ≠ []
  unmarked : ∀ c ∈ ['\n', ':', ';'], c ∉ text

theorem isBare_of_isPart {text : List Char} (part : IsPart text) : IsBare text where
  trimmed := trimmed_of_isPart part
  filled := part.1
  unmarked := by
    intro c mark member
    simpa [not_plain mark] using part.2 c member

theorem IsBare.joined {word rest gap : List Char} (part : IsPart word) (bare : IsBare rest)
    (between : ∀ c ∈ ['\n', ':', ';'], c ∉ gap) : IsBare (word ++ (gap ++ rest)) where
  trimmed := by
    refine ⟨fun c first => ?_, fun c last => ?_⟩
    · rw [List.head?_append_of_ne_nil word part.1] at first
      exact solid_of_isPart part c (List.mem_of_mem_head? first)
    · rw [← List.append_assoc, List.getLast?_append_of_ne_nil _ bare.filled] at last
      exact bare.trimmed.back c last
  filled := by simp [part.1]
  unmarked := by
    intro c mark member
    rcases List.mem_append.mp member with here | later
    · exact (isBare_of_isPart part).unmarked c mark here
    · exact (List.mem_append.mp later).elim (between c mark) (bare.unmarked c mark)

theorem isBare_intercalate {operands : List String} (parts : ∀ operand ∈ operands, IsPart operand.toList)
    (some : operands ≠ []) : IsBare (", ".intercalate operands).toList := by
  induction operands with
  | nil => exact absurd rfl some
  | cons first rest ih =>
    rw [List.forall_mem_cons] at parts
    cases rest with
    | nil => simpa using isBare_of_isPart parts.1
    | cons second rest =>
      rw [String.intercalate_cons_cons, String.toList_append, String.toList_append, List.append_assoc]
      exact IsBare.joined parts.1 (ih parts.2 (by simp)) (by simp)

/-- A printed statement is a line without a label or a comment, and its first word and its
operands are told apart again. -/
theorem statementText_spec {mnemonic : String} {operands : List String} (named : IsPart mnemonic.toList)
    (parts : ∀ operand ∈ operands, IsPart operand.toList) :
    IsBare (statementText mnemonic operands).toList ∧
      splitWord (statementText mnemonic operands).toList =
        (mnemonic.toList, (", ".intercalate operands).toList) := by
  unfold statementText
  cases operands with
  | nil => exact ⟨isBare_of_isPart named, splitWord_word (solid_of_isPart named)⟩
  | cons first rest =>
    have bare := isBare_intercalate parts (List.cons_ne_nil first rest)
    have whole : IsBare (mnemonic.toList ++ (" ".toList ++ (", ".intercalate (first :: rest)).toList)) :=
      IsBare.joined named bare (by simp)
    have split := splitWord_joined (solid_of_isPart named) named.1 bare.trimmed bare.filled
    have written : (mnemonic ++ " " ++ ", ".intercalate (first :: rest)).toList =
        mnemonic.toList ++ (" ".toList ++ (", ".intercalate (first :: rest)).toList) := by
      rw [String.toList_append, String.toList_append, List.append_assoc]
    rw [List.isEmpty_cons, if_neg Bool.false_ne_true, written]
    refine ⟨whole, ?_⟩
    rw [← trim_of_trimmed whole.trimmed]
    exact split

/-! ## No references -/

theorem Piece.split_of_no_start {attached : Bool} {text : List Char}
    (none : ∀ c ∈ text, isNameStart c = false) : split attached text = text.map .other := by
  induction text generalizing attached with
  | nil => rw [split, List.map_nil]
  | cons c rest ih =>
    rw [List.forall_mem_cons] at none
    rw [split, if_neg (by simp [none.1]), ih none.2, List.map_cons]

theorem isNameStart_of_isDigit {c : Char} (digit : c.isDigit = true) : isNameStart c = false := by
  by_contra start
  have low := toNat_of_isNameStart (by simpa using start)
  have high := toNat_of_isDigit digit
  omega

/-- The pieces on both sides of a sign do not depend on each other. -/
theorem Piece.split_append_sign {sign : Char} (signs : sign = '$' ∨ sign = '#') (attached : Bool)
    (front back : List Char) :
    split attached (front ++ sign :: back) = split attached (front ++ [sign]) ++ split true back := by
  have stops : isNameChar sign = false := by rcases signs with rfl | rfl <;> decide
  have plain : isNameStart sign = false := by rcases signs with rfl | rfl <;> decide
  have holds : attaches sign = true := by rcases signs with rfl | rfl <;> decide
  -- The sign ends any name, so the induction meets it as a piece of its own.
  generalize laidOut : front ++ sign :: back = text
  fun_induction split attached text generalizing front with
  | case1 => simp at laidOut
  | case2 attached c rest starts ih =>
    cases front with
    | nil =>
      obtain rfl : sign = c := List.head_eq_of_cons_eq laidOut
      simp [plain] at starts
    | cons d front =>
      obtain ⟨rfl, rfl⟩ := List.cons.inj laidOut
      rw [List.append_eq, dropWhile_append_cons_of_stop stops] at ih ⊢
      rw [takeWhile_append_cons_of_stop stops, List.cons_append, split, if_pos starts,
        takeWhile_append_cons_of_stop stops, dropWhile_append_cons_of_stop stops, ih _ rfl]
      rfl
  | case3 attached c rest starts ih =>
    cases front with
    | nil =>
      obtain ⟨rfl, rfl⟩ := List.cons.inj laidOut
      simp [split, plain, holds]
    | cons d front =>
      obtain ⟨rfl, rfl⟩ := List.cons.inj laidOut
      rw [List.append_eq] at ih ⊢
      rw [List.cons_append, split, if_neg starts, ih _ rfl]
      rfl

def Unreferring (text : List Char) : Prop := ∀ piece ∈ Piece.split false text, piece.reference? = none

instance (text : List Char) : Decidable (Unreferring text) :=
  inferInstanceAs (Decidable (∀ piece ∈ Piece.split false text, piece.reference? = none))

theorem unreferring_operands (instruction : Instruction) :
    Unreferring (", ".intercalate instruction.operands).toList := by
  -- The names of registers and flags are reserved, which is seen one by one.
  have pair (first second : Register) (chained : Bool) :
      Unreferring (", ".intercalate (Instruction.pairOperands first second chained)).toList := by
    cases first <;> cases second <;> cases chained <;> decide +kernel
  have flag (flags : Flags) : Unreferring (", ".intercalate (Instruction.flagOperands flags)).toList := by
    obtain ⟨carry, zero⟩ := flags
    cases carry <;> cases zero <;> decide +kernel
  -- Digits begin no name, and the text before their sign is one of a few.
  have numbers (attached : Bool) (n : Nat) :
      ∀ piece ∈ Piece.split attached (Nat.toDigits 10 n), piece.reference? = none := by
    rw [Piece.split_of_no_start fun c member => isNameStart_of_isDigit (isDigit_of_mem_toDigits member)]
    intro piece member
    obtain ⟨c, _, rfl⟩ := List.mem_map.mp member
    rfl
  have signed {front : List Char} {sign : Char} (signs : sign = '$' ∨ sign = '#')
      (before : Unreferring (front ++ [sign])) (n : Nat) :
      Unreferring (front ++ sign :: Nat.toDigits 10 n) := by
    unfold Unreferring
    rw [Piece.split_append_sign signs]
    intro piece member
    exact (List.mem_append.mp member).elim (before piece) (numbers true n piece)
  cases instruction with
  | hlt | ret => decide +kernel
  | add first second chained | sub first second chained | cmp first second chained =>
    exact pair first second chained
  | nand first second => exact pair first second false
  | stb flags | clb flags => exact flag flags
  | shr first => cases first <;> decide +kernel
  | ldi first value =>
    have written : (", ".intercalate (Instruction.ldi first value).operands).toList =
        (first.name.toList ++ [',', ' ']) ++ '#' :: Nat.toDigits 10 value.toNat := by
      simp [Instruction.operands]
    rw [written]
    exact signed (.inr rfl) (by cases first <;> decide +kernel) value.toNat
  | lod first address | str first address =>
    have written : (", ".intercalate [first.name, Instruction.dataOperand address]).toList =
        (first.name.toList ++ [',', ' ']) ++ '$' :: Nat.toDigits 10 address.toNat := by
      simp [Instruction.dataOperand]
    unfold Instruction.operands
    rw [written]
    exact signed (.inl rfl) (by cases first <;> decide +kernel) address.toNat
  | jmp target | jc target | jz target | call target =>
    have written : (", ".intercalate [Instruction.programOperand target]).toList =
        ['$'] ++ '$' :: Nat.toDigits 10 target.toNat := by
      simp [Instruction.programOperand]
    unfold Instruction.operands
    rw [written]
    exact signed (.inl rfl) (by decide +kernel) target.toNat

theorem not_refers_of_unreferring {text : List Char} (none : Unreferring text) (label : String) :
    ¬ Refers text label := by
  intro refers
  obtain ⟨piece, member, refers⟩ := refers_iff.mp refers
  rw [none piece member] at refers
  contradiction

/-! ## Whole statements -/

theorem opcodeNamed?_name (opcode : Opcode) : opcodeNamed? opcode.name.toList = some opcode := by
  cases opcode <;> decide

theorem build_of_target {instruction : Instruction} {target : BitVec 12}
    (targeted : instruction.target? = some target) :
    ∃ build, instruction.opcode.branching? = some build ∧ instruction = build target := by
  cases instruction <;> simp only [Instruction.target?, Option.some.injEq, reduceCtorEq] at targeted
  all_goals
    subst targeted
    exact ⟨_, rfl, rfl⟩

theorem Symbols.mem_of_nameAt? {symbols : Symbols} {address : Int} {name : String}
    (found : symbols.nameAt? address = some name) : (name, address) ∈ symbols := by
  obtain ⟨entry, first, rfl⟩ := Option.map_eq_some_iff.mp found
  have same : entry.2 = address := by simpa using List.find?_some first
  subst same
  exact List.mem_of_find?_eq_some first

/-- A table of labels that can be declared, each of them once. -/
structure Declarable (symbols : Symbols) : Prop where
  distinct : symbols.keys.Nodup
  natural : ∀ entry ∈ symbols, 0 ≤ entry.2
  named : ∀ label ∈ symbols.keys, isName label.toList = true
  free : ∀ label ∈ symbols.keys, isReserved label.toList = false

/-- The words of statements are words of instructions that name flags where flags are due. -/
theorem exists_of_statementWord {code : List Char} {word : Word} (accepted : statementWord code = .ok word) :
    ∃ found, NamesFlags found ∧ word = found.word := by
  obtain ⟨found, statementRead, rfl⟩ := statementWord_eq_ok_iff.mp accepted
  obtain ⟨opcode, rest, _, read, _⟩ := instruction_eq_ok_iff.mp statementRead
  exact ⟨found, (yields_operands opcode read).2, rfl⟩

section Statements

variable {symbols : Symbols} {found : Instruction}

theorem statementWord_plain_text (named : NamesFlags found) :
    statementWord (statementText found.opcode.name found.operands).toList = .ok found.word := by
  obtain ⟨bare, split⟩ := statementText_spec (isPart_opcode found.opcode) (isPart_operands found)
  refine statementWord_eq_ok_iff.mpr ⟨found, instruction_eq_ok_iff.mpr ⟨found.opcode, [], ?_⟩, rfl⟩
  rw [trim_of_trimmed bare.trimmed, split]
  exact ⟨opcodeNamed?_name found.opcode, run_operands named, rfl⟩

theorem encodes_plain_text (named : NamesFlags found) :
    Encodes symbols (statementText found.opcode.name found.operands).toList found.word := by
  obtain ⟨bare, split⟩ := statementText_spec (isPart_opcode found.opcode) (isPart_operands found)
  rw [encodes_of_no_reference bare.trimmed]
  · exact statementWord_plain_text named
  · rw [operandsOf, split]
    exact not_refers_of_unreferring (unreferring_operands found)

theorem encodes_label_text (declarable : Declarable symbols) {target : BitVec 12} {name : String}
    (targeted : found.target? = some target) (shown : symbols.nameAt? target.toNat = some name) :
    Encodes symbols (statementText found.opcode.name [name]).toList found.word := by
  obtain ⟨build, branches, built⟩ := build_of_target targeted
  have known := Table.get?_of_mem declarable.distinct (Symbols.mem_of_nameAt? shown)
  have member : name ∈ symbols.keys := List.mem_map.mpr ⟨_, Symbols.mem_of_nameAt? shown, rfl⟩
  have named := declarable.named name member
  obtain ⟨bare, split⟩ := statementText_spec (isPart_opcode found.opcode)
    (List.forall_mem_singleton.mpr (isPart_name named))
  have sole : operandsOf (statementText found.opcode.name [name]).toList = name.toList := by
    rw [operandsOf, split, String.intercalate_singleton]
  have refers : Refers name.toList name :=
    ⟨declarable.free name member, [], [], by simp, ⟨named, by simp, by simp⟩⟩
  have short : target.toNat < decimalSpan :=
    lt_limit_of_short (Nat.lt_trans target.isLt (by decide))
  have encodes := encodes_branch declarable.natural bare.trimmed sole (sole ▸ refers)
    (by rw [operationOf?, split, opcodeNamed?_name]) branches known short
  rwa [BitVec.ofNat_toNat, BitVec.setWidth_eq, ← built] at encodes

theorem encodes_text (declarable : Declarable symbols) (named : NamesFlags found) :
    Encodes symbols (found.text symbols).toList found.word := by
  unfold Instruction.text Instruction.shownOperands
  split
  · next name shown =>
    obtain ⟨target, targeted, shown⟩ := Option.bind_eq_some_iff.mp shown
    exact encodes_label_text declarable targeted shown
  · exact encodes_plain_text named

theorem isBare_text (declarable : Declarable symbols) (found : Instruction) :
    IsBare (found.text symbols).toList := by
  unfold Instruction.text Instruction.shownOperands
  split
  · next name shown =>
    obtain ⟨target, _, shown⟩ := Option.bind_eq_some_iff.mp shown
    have member : name ∈ symbols.keys := List.mem_map.mpr ⟨_, Symbols.mem_of_nameAt? shown, rfl⟩
    exact (statementText_spec (isPart_opcode found.opcode)
      (List.forall_mem_singleton.mpr (isPart_name (declarable.named name member)))).1
  · exact (statementText_spec (isPart_opcode found.opcode) (isPart_operands found)).1

end Statements

end HarvardBench.Assembly
