import HarvardBench.Proofs.Assembly.Listing
import HarvardBench.Proofs.Assembly.Localization

/-! Texts with their references resolved.

What is put in the place of a reference begins no name, and no name comes to begin behind it. So
resolved code refers to nothing and stays as it is, whatever the labels are, and the resolved codes
of a text are a text without labels that has the same words.
-/

set_option autoImplicit false

namespace HarvardBench.Assembly

open Text

variable {symbols : Symbols}

/-! ## Operands -/

namespace Piece

theorem split_attached {word : List Char} (inside : ∀ c ∈ word, isNameChar c = true) (rest : List Char) :
    split true (word ++ rest) = word.map other ++ split true rest := by
  induction word with
  | nil => rfl
  | cons c word ih =>
    rw [List.forall_mem_cons] at inside
    have attached : attaches c = true := by simp [attaches, isWordChar_of_isNameChar inside.1]
    rw [List.cons_append, split, if_neg (by simp), attached, ih inside.2, List.map_cons, List.cons_append]

theorem split_addressText (address : Nat) (rest : List Char) :
    split false (addressText address ++ rest) = (addressText address).map other ++ split true rest := by
  have digits : ∀ c ∈ 'd' :: Nat.toDigits 10 address, isNameChar c = true := by
    refine List.forall_mem_cons.mpr ⟨by decide, fun c member => ?_⟩
    exact isNameChar_of_isDigit (isDigit_of_mem_toDigits member)
  have sign (attached : Bool) (more : List Char) : split attached ('$' :: more) = other '$' :: split true more := by
    rw [split, if_neg (by simp [show isNameStart '$' = false by decide]), show attaches '$' = true by decide]
  have laidOut : addressText address ++ rest = '$' :: '$' :: ('d' :: Nat.toDigits 10 address ++ rest) := by simp
  rw [laidOut, sign, sign, split_attached digits, addressText_ofNat]
  rfl

/-- What no name may begin in front of begins as it did when it is resolved. -/
theorem head?_of_attached {text resolved : List Char}
    (success : resolvePieces symbols (split true text) = .ok resolved) : resolved.head? = text.head? := by
  cases text with
  | nil =>
    rw [split] at success
    exact Except.ok.inj success ▸ rfl
  | cons c rest =>
    rw [split, if_neg (by simp)] at success
    obtain ⟨front, back, here, _, rfl⟩ := resolvePieces_cons_ok.mp success
    obtain rfl := Except.ok.inj here
    rfl

section Natural

variable (natural : ∀ entry ∈ symbols, 0 ≤ entry.2)

include natural

theorem unreferring_resolved {attached : Bool} {text resolved : List Char}
    (success : resolvePieces symbols (split attached text) = .ok resolved) :
    ∀ piece ∈ split attached resolved, piece.reference? = none := by
  fun_induction split attached text generalizing resolved with
  | case1 attached =>
    obtain rfl := Except.ok.inj success
    simp [split]
  | case2 attached c rest starts ih =>
    obtain ⟨here, back, read, later, rfl⟩ := resolvePieces_cons_ok.mp success
    have free : attached = false := by
      rw [Bool.and_eq_true, Bool.not_eq_true'] at starts
      exact starts.1
    cases refers : (name (c :: rest.takeWhile isNameChar)).reference? with
    | none =>
      rw [resolve_of_none refers] at read
      obtain rfl := Except.ok.inj read
      -- The name is kept, and what comes behind it does not go on with it.
      have stop : ∀ d ∈ back.head?, isNameChar d = false := by
        rw [head?_of_attached later]
        exact stop_dropWhile rest
      have inside : ∀ d ∈ rest.takeWhile isNameChar, isNameChar d = true := fun d => List.mem_takeWhile_imp
      rw [text, List.cons_append, split, if_pos starts, takeWhile_append_of_stop inside stop,
        dropWhile_append_of_stop inside stop]
      exact List.forall_mem_cons.mpr ⟨refers, ih later⟩
    | some label =>
      obtain ⟨address, known, rfl⟩ := (resolve_eq_ok_iff refers).mp read
      obtain ⟨address, rfl⟩ := Int.eq_ofNat_of_zero_le (natural _ (Table.mem_of_get? known))
      rw [free, split_addressText]
      refine List.forall_mem_append.mpr ⟨fun piece member => ?_, ih later⟩
      obtain ⟨d, _, rfl⟩ := List.mem_map.mp member
      rfl
  | case3 attached c rest starts ih =>
    obtain ⟨here, back, read, later, rfl⟩ := resolvePieces_cons_ok.mp success
    obtain rfl := Except.ok.inj read
    rw [text, List.singleton_append, split, if_neg starts]
    exact List.forall_mem_cons.mpr ⟨rfl, ih later⟩

end Natural

end Piece

/-! ## Codes -/

theorem mem_resolvePieces (natural : ∀ entry ∈ symbols, 0 ≤ entry.2) {pieces : List Piece} {resolved : List Char}
    (success : resolvePieces symbols pieces = .ok resolved) {c : Char} (member : c ∈ resolved) :
    c ∈ pieces.flatMap Piece.text ∨ isPlain c = true := by
  induction pieces generalizing resolved with
  | nil =>
    obtain rfl := Except.ok.inj success
    exact absurd member List.not_mem_nil
  | cons piece rest ih =>
    obtain ⟨front, back, here, later, rfl⟩ := resolvePieces_cons_ok.mp success
    rw [List.flatMap_cons, List.mem_append]
    rcases List.mem_append.mp member with first | behind
    · -- A piece that refers to nothing is kept; a label gives way to plain digits.
      cases refers : piece.reference? with
      | none =>
        rw [Piece.resolve_of_none refers] at here
        exact .inl (.inl (Except.ok.inj here ▸ first))
      | some label =>
        obtain ⟨address, known, rfl⟩ := (Piece.resolve_eq_ok_iff refers).mp here
        obtain ⟨n, _, written⟩ := addressText_of_known natural known
        have part : IsPart (['$', '$'] ++ (['d'] ++ Nat.toDigits 10 n)) :=
          IsPart.append (by decide) (IsPart.append (by decide) (isPart_toDigits n))
        exact .inr (part.2 c (written ▸ first))
    · exact (ih later behind).imp_left .inr

section Codes

variable {code resolved : List Char}

theorem mem_resolveCode (natural : ∀ entry ∈ symbols, 0 ≤ entry.2)
    (success : resolveCode symbols code = .ok resolved) {c : Char} (member : c ∈ resolved) :
    c ∈ code ∨ c = ' ' ∨ isPlain c = true := by
  by_cases single : (splitWord code).2 = []
  · rw [resolveCode_of_single single] at success
    exact .inl (Except.ok.inj success ▸ member)
  · rw [resolveCode_of_operands single] at success
    obtain ⟨operands, read, rfl⟩ := map_eq_ok_iff.mp success
    obtain ⟨named, within⟩ := splitWord_subset code
    rcases List.mem_append.mp member with name | behind
    · exact .inl (named name)
    · rcases List.mem_cons.mp behind with space | operand
      · exact .inr (.inl space)
      · rcases mem_resolvePieces natural read operand with kept | plain
        · rw [Piece.flatMap_text_split] at kept
          exact .inl (within kept)
        · exact .inr (.inr plain)

theorem trimmed_resolveCode (natural : ∀ entry ∈ symbols, 0 ≤ entry.2) (trimmed : Trimmed code)
    (success : resolveCode symbols code = .ok resolved) : Trimmed resolved := by
  by_cases single : (splitWord code).2 = []
  · rw [resolveCode_of_single single] at success
    exact Except.ok.inj success ▸ trimmed
  · rw [resolveCode_of_operands single] at success
    obtain ⟨operands, read, rfl⟩ := map_eq_ok_iff.mp success
    obtain ⟨neat, some⟩ := resolveOperands_trimmed natural (trimmed_splitWord trimmed) single read
    exact trimmed_joined (solid_splitWord code) (splitWord_ne_nil_of_more single) neat some

/-- Resolved code is resolved to itself by any labels. -/
theorem resolveCode_resolved (natural : ∀ entry ∈ symbols, 0 ≤ entry.2)
    (success : resolveCode symbols code = .ok resolved) (other : Symbols) :
    resolveCode other resolved = .ok resolved := by
  by_cases single : (splitWord code).2 = []
  · rw [resolveCode_of_single single] at success
    obtain rfl := Except.ok.inj success
    exact resolveCode_of_single single
  · rw [resolveCode_of_operands single] at success
    obtain ⟨operands, read, rfl⟩ := map_eq_ok_iff.mp success
    obtain ⟨some, front⟩ := resolveOperands_front natural (front_trimLeft _) single read
    have split : splitWord ((splitWord code).1 ++ ' ' :: operands) = ((splitWord code).1, operands) := by
      rw [splitWord_append (solid_splitWord code) (by decide) (splitWord_ne_nil_of_more single),
        trimLeft_of_front front]
    -- No label is left, so any other table finds nothing to put in.
    have unreferring : Unreferring operands := Piece.unreferring_resolved natural read
    rw [resolveCode_of_operands (by rwa [split]), split,
      resolveOperands_of_none (not_refers_of_unreferring unreferring)]
    rfl

end Codes

/-! ## Texts -/

def codeText (lines : List Line) : List Char := List.intercalate ['\n'] (lines.map Line.code)

/-- A code on one line, without a label or a comment. -/
structure Plain (code : List Char) : Prop where
  trimmed : Trimmed code
  unmarked : ∀ mark ∈ ['\n', ':', ';'], mark ∉ code

theorem codeOf_subset (line : List Char) : codeOf line ⊆ line := by
  intro c member
  unfold codeOf at member
  split at member
  · exact trim_subset line member
  · next mark rest split =>
    have within : c ∈ line.dropWhile fun c => c != ':' := by
      rw [split]
      exact List.mem_cons_of_mem _ (trim_subset rest member)
    exact (List.dropWhile_sublist _).subset within

theorem plain_codeOf {text line : List Char} (member : line ∈ sourceLines text) (wellLabelled : WellLabelled line) :
    Plain (codeOf line) where
  trimmed := trimmed_codeOf line
  unmarked := by
    obtain ⟨whole, within, rfl⟩ := List.mem_map.mp member
    simp only [List.forall_mem_cons, List.not_mem_nil, false_implies, implies_true, and_true]
    refine ⟨fun ends => ?_, fun second => ?_, fun comment => ?_⟩
    · have kept := (List.takeWhile_sublist _).subset (codeOf_subset _ ends)
      exact not_mem_of_mem_splitAtEach within kept
    · have labelled := codeOf_subset _ second
      exact (labelProblem?_eq_none_iff.mp (wellLabelled labelled)).1 second
    · have stopped := List.mem_takeWhile_imp (codeOf_subset _ comment)
      simp at stopped

theorem Plain.resolved {code resolved : List Char} (plain : Plain code) (natural : ∀ entry ∈ symbols, 0 ≤ entry.2)
    (success : resolveCode symbols code = .ok resolved) : Plain resolved where
  trimmed := trimmed_resolveCode natural plain.trimmed success
  unmarked := by
    intro mark marks member
    have space : mark ≠ ' ' := by
      rintro rfl
      simp at marks
    rcases mem_resolveCode natural success member with kept | gap | written
    · exact plain.unmarked mark marks kept
    · exact space gap
    · simp [not_plain marks] at written

section Joined

variable {lines : List Line} (plain : ∀ line ∈ lines, Plain line.code)

include plain

theorem sourceLines_codeText (some : lines ≠ []) : sourceLines (codeText lines) = lines.map Line.code := by
  have unmarked : ∀ code ∈ lines.map Line.code, '\n' ∉ code ∧ ';' ∉ code := by
    intro code member
    obtain ⟨line, own, rfl⟩ := List.mem_map.mp member
    exact ⟨(plain line own).unmarked '\n' (by simp), (plain line own).unmarked ';' (by simp)⟩
  rw [codeText, sourceLines_intercalate unmarked, if_neg (by simpa using some)]

theorem no_colon_of_codeText : ':' ∉ codeText lines := by
  intro member
  rcases mem_of_mem_intercalate member with between | ⟨code, own, inside⟩
  · simp at between
  · obtain ⟨line, known, rfl⟩ := List.mem_map.mp own
    exact (plain line known).unmarked ':' (by simp) inside

theorem addresses_of_plain : addresses (lines.map Line.code) = [] := by
  have none : declared (lines.map Line.code) = [] := by
    rw [declared, List.filterMap_eq_nil_iff]
    intro code member
    obtain ⟨line, own, rfl⟩ := List.mem_map.mp member
    exact if_neg ((plain line own).unmarked ':' (by simp))
  have keys : (addresses (lines.map Line.code)).keys = [] := (keys_addressesBy _).trans none
  exact List.map_eq_nil_iff.mp keys

theorem codes_of_plain : codes (lines.map Line.code) = (statements lines).map Line.code := by
  have same : (lines.map Line.code).map codeOf = lines.map Line.code := by
    rw [List.map_map]
    refine List.map_congr_left fun line member => ?_
    exact (codeOf_of_plain ((plain line member).unmarked ':' (by simp))).trans
      (trim_of_trimmed (plain line member).trimmed)
  rw [codes, same, List.filter_map]
  rfl

end Joined

/-- The lines of a text are resolved to plain codes, which other labels leave as they are. -/
theorem plain_of_resolved {text : List Char} {lines : List Line}
    (resolved : resolveText text = .ok (lines, symbols)) :
    lines ≠ [] ∧ ∀ line ∈ lines, Plain line.code ∧ ∀ other, resolveCode other line.code = .ok line.code := by
  obtain ⟨layout, scanned, worked⟩ := bind_eq_ok_iff.mp resolved
  obtain ⟨found, success, same⟩ := bind_eq_ok_iff.mp worked
  obtain ⟨rfl, rfl⟩ := Prod.mk.inj (Except.ok.inj same)
  have natural := natural_of_layout scanned
  rw [mapM_eq_ok_iff, lines_of_layout scanned] at success
  constructor
  · rintro rfl
    have count := congrArg List.length (map_code_numbered 1 (sourceLines text))
    rw [List.length_map, success.length_eq, List.length_map, length_sourceLines] at count
    cases count
  · intro line member
    obtain ⟨source, own, resolves⟩ := exists_of_mem_forall₂ success.flip member
    obtain ⟨code, read, rfl⟩ := resolve_eq_ok_iff.mp resolves
    obtain ⟨written, within, same⟩ := exists_numbered_iff.mp ⟨source, own, rfl⟩
    have plain := plain_codeOf within ((ofText_eq_ok_iff.mp scanned).1 written within)
    exact ⟨(same ▸ plain).resolved natural read, resolveCode_resolved natural read⟩

/-- Resolving a second time changes no line, whatever the labels are then; and the resolved codes of
an accepted text are a text without labels that is accepted with the same words. -/
theorem resolving_settles :
    (∀ (symbols : Symbols) (line resolved : Line), (∀ entry ∈ symbols, 0 ≤ entry.2) →
      line.resolve symbols = .ok resolved → ∀ other, resolved.resolve other = .ok resolved) ∧
    ∀ (text : List Char) (program : Program), assemble text = .ok program →
      ∃ lines, resolveText text = .ok (lines, program.symbols) ∧ ':' ∉ codeText lines ∧
        assemble (codeText lines) = .ok ⟨program.words, []⟩ := by
  constructor
  · intro symbols line resolved natural success other
    obtain ⟨code, read, rfl⟩ := resolve_eq_ok_iff.mp success
    exact resolve_eq_ok_iff.mpr ⟨code, resolveCode_resolved natural read other, rfl⟩
  · intro text program accepted
    obtain ⟨⟨lines, table⟩, resolved, worked⟩ := bind_eq_ok_iff.mp accepted
    obtain ⟨words, read, made⟩ := bind_eq_ok_iff.mp worked
    obtain rfl := Except.ok.inj made
    obtain ⟨some, each⟩ := plain_of_resolved resolved
    have plain : ∀ line ∈ lines, Plain line.code := fun line member => (each line member).1
    have unlabelled : ∀ line ∈ lines.map Line.code, ':' ∉ line := by
      intro code member
      obtain ⟨line, own, rfl⟩ := List.mem_map.mp member
      exact (plain line own).unmarked ':' (by simp)
    refine ⟨lines, resolved, no_colon_of_codeText plain, assemble_eq_ok_iff.mpr ?_⟩
    rw [sourceLines_codeText plain some, addresses_of_plain plain, codes_of_plain plain, List.forall₂_map_left_iff]
    refine ⟨fun line member labelled => absurd labelled (unlabelled line member), ?_, rfl, ?_⟩
    · have keys : (addresses (lines.map Line.code)).keys = declared (lines.map Line.code) := keys_addressesBy _
      rw [← keys, addresses_of_plain plain]
      exact List.nodup_nil
    · -- Each statement is its own resolved code, so its word is read from it again.
      have own : ∀ line ∈ statements lines, ∀ other, resolveCode other line.code = .ok line.code :=
        fun line member => (each line (List.mem_of_mem_filter member)).2
      refine ((List.forall₂_and_left _ _).mpr ⟨own, mapM_eq_ok_iff.mp read⟩).imp ?_
      rintro line word ⟨kept, encoded⟩
      exact ⟨line.code, kept [], word_eq_ok_iff.mp encoded⟩

/-- A label whose address reads like another label, a letter of no name behind it, and a text with an
empty line, a literal that looks like its label and a label behind its last word. -/
theorem resolving_settles_numeral :
    (Line.resolve ⟨3, none, "jmp d5é, ed5".toList⟩ [("d5", 12), ("ed5", 0)] =
        .ok ⟨3, none, "jmp $$d12é, $$d0".toList⟩ ∧
      Line.resolve ⟨3, none, "jmp $$d12é, $$d0".toList⟩ [("d12", 7), ("d0", 1), ("d", 2)] =
        .ok ⟨3, none, "jmp $$d12é, $$d0".toList⟩) ∧
    assemble "b1: ldi x, #b1\n; up\n jz  d2\njmp b1\nd2:".toList =
        .ok ⟨[0x5401, 0xA003, 0x8000], [("b1", 0), ("d2", 3)]⟩ ∧
      ∃ lines,
        resolveText "b1: ldi x, #b1\n; up\n jz  d2\njmp b1\nd2:".toList = .ok (lines, [("b1", 0), ("d2", 3)]) ∧
        ':' ∉ codeText lines ∧ assemble (codeText lines) = .ok ⟨[0x5401, 0xA003, 0x8000], []⟩ := by
  have resolves : Line.resolve ⟨3, none, "jmp d5é, ed5".toList⟩ [("d5", 12), ("ed5", 0)] =
      .ok ⟨3, none, "jmp $$d12é, $$d0".toList⟩ := by decide +kernel
  have accepted : assemble "b1: ldi x, #b1\n; up\n jz  d2\njmp b1\nd2:".toList =
      .ok ⟨[0x5401, 0xA003, 0x8000], [("b1", 0), ("d2", 3)]⟩ := by decide +kernel
  exact ⟨⟨resolves, resolving_settles.1 _ _ _ (by decide) resolves _⟩, accepted, resolving_settles.2 _ _ accepted⟩

end HarvardBench.Assembly
