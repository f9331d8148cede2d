import HarvardBench.Proofs.Assembly.Addressing

/-! Texts one behind the other.

Two accepted texts with different labels make one accepted text. The addresses of the
second move by the number of words of the first, and so do the words that refer to
labels; a label at the end of the first text comes to name the first word of the second.
-/

set_option autoImplicit false

namespace HarvardBench

def Symbols.moved (symbols : Symbols) (offset : Nat) : Symbols :=
  symbols.map fun entry => (entry.1, entry.2 + offset)

namespace Symbols

theorem keys_moved (symbols : Symbols) (offset : Nat) :
    Table.keys (symbols.moved offset) = symbols.keys := by
  simp [moved, Table.keys, Function.comp_def]

theorem mem_moved {symbols : Symbols} {label : String} {address : Int} (offset : Nat)
    (member : (label, address) ∈ symbols) : (label, address + offset) ∈ symbols.moved offset :=
  List.mem_map.mpr ⟨_, member, rfl⟩

end Symbols

/-- The word with an offset added to its low twelve bits, which wrap around. -/
def Word.moved (word : Word) (offset : Nat) : Word :=
  BitVec.ofNat 16 (word.toNat / 4096 * 4096 + (word.toNat + offset) % 4096)

namespace Word

theorem toNat_moved (word : Word) (offset : Nat) :
    (word.moved offset).toNat = word.toNat / 4096 * 4096 + (word.toNat + offset) % 4096 := by
  have bound := word.isLt
  rw [moved, BitVec.toNat_ofNat]
  omega

@[simp] theorem moved_zero (word : Word) : word.moved 0 = word := by
  apply BitVec.eq_of_toNat_eq
  rw [toNat_moved]
  omega

end Word

theorem Instruction.moved_word_of_branching {opcode : Opcode} {build : BitVec 12 → Instruction}
    (branches : opcode.branching? = some build) (address offset : Nat) :
    (build (BitVec.ofNat 12 address)).word.moved offset =
      (build (BitVec.ofNat 12 (address + offset))).word := by
  apply BitVec.eq_of_toNat_eq
  simp only [Word.toNat_moved, toNat_word, opcode_of_branching branches, payload_of_branching branches,
    BitVec.toNat_ofNat]
  omega

namespace Assembly

open Text

def Referring (code : List Char) : Prop := ∃ label, Refers (operandsOf code) label

theorem referring_iff {code : List Char} :
    Referring code ↔ ∃ piece ∈ Piece.split false (operandsOf code), piece.reference?.isSome := by
  simp only [Referring, refers_iff, Option.isSome_iff_exists]
  constructor
  · rintro ⟨label, piece, member, refers⟩
    exact ⟨piece, member, label, refers⟩
  · rintro ⟨piece, member, label, refers⟩
    exact ⟨label, piece, member, refers⟩

instance (code : List Char) : Decidable (Referring code) := decidable_of_iff' _ referring_iff

/-- The words of some codes, of which those with references are moved. -/
def relocated (offset : Nat) (codes : List (List Char)) (words : List Word) : List Word :=
  List.zipWith (fun code word => if Referring code then word.moved offset else word) codes words

/-- A program and behind it the program of some lines. -/
def Program.linked (front back : Program) (lines : List (List Char)) : Program where
  words := front.words ++ relocated front.words.length (codes lines) back.words
  symbols := front.symbols ++ back.symbols.moved front.words.length

/-! ## Lines and labels -/

theorem sourceLines_append (first second : List Char) :
    sourceLines (first ++ '\n' :: second) = sourceLines first ++ sourceLines second := by
  rw [sourceLines, lines, splitAtEach_append, List.map_append]
  rfl

theorem addressesBy_moved {counts : List Char → Bool} (offset start : Nat) (lines : List (List Char)) :
    addressesBy counts (start + offset) lines = (addressesBy counts start lines).moved offset := by
  induction lines generalizing start with
  | nil => rfl
  | cons line rest ih =>
    rw [addressesBy, addressesBy, Nat.add_right_comm, ih, Symbols.moved, Symbols.moved, List.map_append,
      List.map_map]
    rfl

theorem addresses_append (above below : List (List Char)) :
    addresses (above ++ below) = addresses above ++ (addresses below).moved (codes above).length := by
  rw [addresses, addressesBy_append, addressesBy_moved]
  rfl

/-! ## Words -/

/-- A wider table that has the labels of another at moved addresses, each short enough to be
written. -/
structure Symbols.Extends (wider symbols : Symbols) (offset : Nat) : Prop where
  moved : ∀ label (address : Nat), symbols.get? label = some (address : Int) →
    wider.get? label = some ((address + offset : Nat) : Int)
  natural : ∀ entry ∈ wider, 0 ≤ entry.2
  short : ∀ label (address : Nat), wider.get? label = some (address : Int) → address < decimalSpan

section Moving

variable {symbols wider : Symbols} {offset : Nat}

/-- A reference moves with its label, and any other code keeps its word. -/
theorem Encodes.moved {code : List Char} {word : Word} (natural : ∀ entry ∈ symbols, 0 ≤ entry.2)
    (wide : Symbols.Extends wider symbols offset) (trimmed : Trimmed code)
    (encodes : Encodes symbols code word) :
    Encodes wider code (if Referring code then word.moved offset else word) := by
  by_cases referring : Referring code
  · obtain ⟨label, refers⟩ := referring
    obtain ⟨sole, opcode, build, address, named, branches, known, rfl⟩ :=
      encodes.branch natural trimmed refers
    have later := wide.moved label address known
    rw [if_pos ⟨label, refers⟩, Instruction.moved_word_of_branching branches]
    exact encodes_branch wide.natural trimmed sole refers named branches later (wide.short label _ later)
  · have none : ∀ label, ¬ Refers (operandsOf code) label := not_exists.mp referring
    rw [if_neg referring, encodes_of_no_reference trimmed none]
    exact (encodes_of_no_reference trimmed none).mp encodes

theorem forall₂_relocated {codes : List (List Char)} {words : List Word}
    (natural : ∀ entry ∈ symbols, 0 ≤ entry.2) (wide : Symbols.Extends wider symbols offset)
    (trimmed : ∀ code ∈ codes, Trimmed code) (encoded : List.Forall₂ (Encodes symbols) codes words) :
    List.Forall₂ (Encodes wider) codes (relocated offset codes words) := by
  induction encoded with
  | nil => exact .nil
  | cons here _ ih =>
    rw [List.forall_mem_cons] at trimmed
    exact .cons (here.moved natural wide trimmed.1) (ih trimmed.2)

end Moving

theorem relocated_zero {relates : List Char → Word → Prop} {codes : List (List Char)} {words : List Word}
    (related : List.Forall₂ relates codes words) : relocated 0 codes words = words := by
  induction related with
  | nil => rfl
  | cons _ _ ih =>
    rw [relocated, List.zipWith_cons_cons, Word.moved_zero, ite_self]
    exact congrArg _ ih

theorem trimmed_of_mem_codes {lines : List (List Char)} : ∀ code ∈ codes lines, Trimmed code := by
  intro code member
  obtain ⟨line, _, rfl⟩ := List.mem_map.mp (List.mem_of_mem_filter member)
  exact trimmed_codeOf line

/-! ## Linking -/

theorem Program.keys_linked (front back : Program) (lines : List (List Char)) :
    (front.linked back lines).symbols.keys = front.symbols.keys ++ back.symbols.keys := by
  rw [linked, Table.keys, List.map_append]
  exact congrArg _ (Symbols.keys_moved _ _)

section Linked

variable {first second : List Char} {front back : Program} (accepted : assemble first = .ok front)
  (behind : assemble second = .ok back)

include accepted behind

theorem symbols_linked : (front.linked back (sourceLines second)).symbols =
    addresses (sourceLines (first ++ '\n' :: second)) := by
  obtain ⟨_, _, table, encoded⟩ := assemble_eq_ok_iff.mp accepted
  obtain ⟨_, _, later, _⟩ := assemble_eq_ok_iff.mp behind
  rw [sourceLines_append, addresses_append, ← table, ← later, encoded.length_eq]
  rfl

theorem bounds_linked : ∀ entry ∈ (front.linked back (sourceLines second)).symbols,
    0 ≤ entry.2 ∧ entry.2 ≤ (front.words.length + back.words.length : Nat) := by
  obtain ⟨_, _, _, encoded⟩ := assemble_eq_ok_iff.mp accepted
  obtain ⟨_, _, _, later⟩ := assemble_eq_ok_iff.mp behind
  intro entry member
  rw [symbols_linked accepted behind] at member
  obtain ⟨low, high⟩ := bounds_addressesBy member
  have all : (codes (sourceLines (first ++ '\n' :: second))).length =
      front.words.length + back.words.length := by
    rw [sourceLines_append, codes_append, List.length_append, encoded.length_eq, later.length_eq]
  rw [← all]
  exact ⟨low, by simpa [codes] using high⟩

variable (disjoint : front.symbols.keys.Disjoint back.symbols.keys)

include disjoint

theorem nodup_linked : (front.linked back (sourceLines second)).symbols.keys.Nodup := by
  rw [Program.keys_linked, (assemble_describes accepted).names, (assemble_describes behind).names]
  rw [(assemble_describes accepted).names, (assemble_describes behind).names] at disjoint
  exact (assemble_describes accepted).distinct.append (assemble_describes behind).distinct disjoint

variable (writable : front.words.length + back.words.length < decimalSpan)

include writable

theorem extends_linked {symbols : Symbols} {offset : Nat}
    (moved : ∀ entry ∈ symbols, (entry.1, entry.2 + (offset : Int)) ∈
      (front.linked back (sourceLines second)).symbols) :
    Symbols.Extends (front.linked back (sourceLines second)).symbols symbols offset where
  moved := by
    intro label address known
    refine Table.get?_of_mem (nodup_linked accepted behind disjoint) ?_
    exact moved _ (Table.mem_of_get? known)
  natural := fun entry member => (bounds_linked accepted behind entry member).1
  short := by
    intro label address known
    have high := (bounds_linked accepted behind _ (Table.mem_of_get? known)).2
    exact Nat.lt_of_le_of_lt (Int.ofNat_le.mp high) writable

/-- Accepted texts with different labels are accepted one behind the other, as the programs
one behind the other. Addresses are written as decimal numerals, which are limited to 4300
digits, so the words must be fewer than the numbers that can be written; no text that can be
stored has as many. -/
theorem assemble_linked : (codes (sourceLines second)).length = back.words.length ∧
    assemble (first ++ '\n' :: second) = .ok (front.linked back (sourceLines second)) := by
  obtain ⟨labelled, _, table, encoded⟩ := assemble_eq_ok_iff.mp accepted
  obtain ⟨laterLabelled, _, laterTable, laterEncoded⟩ := assemble_eq_ok_iff.mp behind
  have here : Symbols.Extends (front.linked back (sourceLines second)).symbols front.symbols 0 :=
    extends_linked accepted behind disjoint writable fun entry member =>
      List.mem_append_left _ (by simpa using member)
  have later : Symbols.Extends (front.linked back (sourceLines second)).symbols back.symbols
      front.words.length :=
    extends_linked accepted behind disjoint writable fun entry member =>
      List.mem_append_right _ (Symbols.mem_moved _ member)
  refine ⟨laterEncoded.length_eq, assemble_eq_ok_iff.mpr ⟨?_, ?_, symbols_linked accepted behind, ?_⟩⟩
  · rw [sourceLines_append]
    exact List.forall_mem_append.mpr ⟨labelled, laterLabelled⟩
  · rw [← keys_addressesBy, ← addresses, ← symbols_linked accepted behind]
    exact nodup_linked accepted behind disjoint
  · -- The first text stays where it is, and the second moves by the words of the first.
    have moved := forall₂_relocated (table ▸ natural_addresses _) here trimmed_of_mem_codes encoded
    rw [relocated_zero encoded] at moved
    rw [sourceLines_append, codes_append]
    exact List.rel_append moved
      (forall₂_relocated (laterTable ▸ natural_addresses _) later trimmed_of_mem_codes laterEncoded)

end Linked

theorem assemble_linked_seam :
    assemble "start: JZ end\nend:".toList = .ok ⟨[0xA001], [("start", 0), ("end", 1)]⟩ ∧
      assemble "b1: ldi x, #b1\nCALL b1".toList = .ok ⟨[0x5401, 0xD000], [("b1", 0)]⟩ ∧
      assemble "start: JZ end\nend:\nb1: ldi x, #b1\nCALL b1".toList =
        .ok ⟨[0xA001, 0x5401, 0xD001], [("start", 0), ("end", 1), ("b1", 1)]⟩ := by
  have front : assemble "start: JZ end\nend:".toList = .ok ⟨[0xA001], [("start", 0), ("end", 1)]⟩ := by
    decide +kernel
  have back : assemble "b1: ldi x, #b1\nCALL b1".toList = .ok ⟨[0x5401, 0xD000], [("b1", 0)]⟩ := by
    decide +kernel
  have disjoint : ["start", "end"].Disjoint ["b1"] := by simp
  have linked := (assemble_linked front back disjoint (lt_limit_of_short (by decide))).2
  refine ⟨front, back, linked.trans ?_⟩
  decide +kernel

end Assembly

end HarvardBench
