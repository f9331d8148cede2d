import HarvardBench.Proofs.Assembly.Language
import HarvardBench.Proofs.Assembly.Linking
import HarvardBench.Proofs.Assembly.Listing
import Mathlib.Logic.Relation

/-! Changes of a text that leave its program as it is.

Each change is said of the lines of a text: a line without code or label is put in, a line gets a
comment or blanks, or its label moves to a line above. The labels, codes and addresses of the
lines stay the same, and lines around them carry this along, since a table depends on the number
of codes above only.
-/

set_option autoImplicit false

namespace HarvardBench.Assembly

open Text Grammar

instance (text : List Char) : Decidable (Blanks text) := decidable_of_iff (text.all isBlank = true) List.all_eq_true

/-- What may come in the place of a line. -/
inductive Recast : List Char → List (List Char) → Prop where
  | comment (line note : List Char) : Recast line [line ++ ';' :: note]
  | pad {line front back : List Char} (plain : ';' ∉ line) (before : Blanks front) (after : Blanks back) :
      Recast line [front ++ (line ++ back)]
  | part {label rest front gap outer inner : List Char} (unmarked : ∀ mark ∈ [':', ';'], mark ∉ label)
      (before : Blanks front) (between : Blanks gap) (outside : Blanks outer) (inside : Blanks inner) :
      Recast (front ++ (label ++ ':' :: (gap ++ rest))) [outer ++ (label ++ [':']), inner ++ rest]

/-- One change of a text. -/
inductive Rearranges (text other : List Char) : Prop where
  | insert {above below : List (List Char)} {line : List Char} (split : lines text = above ++ below)
      (blank : Blanks (uncommented line)) (joined : lines other = above ++ line :: below)
  | recast {above new below : List (List Char)} {line : List Char} (split : lines text = above ++ line :: below)
      (recast : Recast line new) (joined : lines other = above ++ (new ++ below))
  | newline (ended : other = text ++ ['\n'])

/-- Lines that are well labelled and have the codes and the label table of others. -/
structure Keeps (before after : List (List Char)) : Prop where
  wellLabelled : ∀ line ∈ after, WellLabelled line
  codes : codes after = codes before
  addresses : addresses after = addresses before

theorem Keeps.within {before after above below : List (List Char)} (keeps : Keeps before after)
    (front : ∀ line ∈ above, WellLabelled line) (back : ∀ line ∈ below, WellLabelled line) :
    Keeps (above ++ (before ++ below)) (above ++ (after ++ below)) where
  wellLabelled := List.forall_mem_append.mpr ⟨front, List.forall_mem_append.mpr ⟨keeps.wellLabelled, back⟩⟩
  codes := by simp only [codes_append, keeps.codes]
  addresses := by simp only [addresses_append, keeps.addresses, keeps.codes]

/-! ## Blanks and marks -/

section Marks

variable {front back text : List Char}

theorem not_mem_of_blanks {mark : Char} (blanks : Blanks text) (solid : isBlank mark = false) : mark ∉ text := by
  intro member
  rw [blanks mark member] at solid
  cases solid

theorem trim_of_blanks (blanks : Blanks text) : trim text = [] := by
  rw [trim, trimLeft, List.dropWhile_eq_nil_iff.mpr blanks]
  rfl

theorem trim_around (before : Blanks front) (after : Blanks back) : trim (front ++ (text ++ back)) = trim text := by
  obtain ⟨first, last, same, starts, ends⟩ := exists_trim text
  by_cases empty : trim text = []
  · rw [empty, List.nil_append] at same
    rw [empty, same]
    exact trim_of_blanks (before.append ((starts.append ends).append after))
  · have padded := trim_padded (before.append starts) (trimmed_trim text) empty (ends.append after)
    conv_lhs => rw [same]
    simpa only [List.append_assoc] using padded

theorem trim_behind (before : Blanks front) : trim (front ++ text) = trim text := by
  have around := @trim_around front [] text before (List.forall_mem_nil _)
  rwa [List.append_nil] at around

theorem trim_before (after : Blanks back) : trim (text ++ back) = trim text :=
  @trim_around [] back text (List.forall_mem_nil _) after

theorem mem_trim {c : Char} (member : c ∈ text) (solid : isBlank c = false) : c ∈ trim text := by
  obtain ⟨first, last, same, starts, ends⟩ := exists_trim text
  rw [same] at member
  rcases List.mem_append.mp member with outside | within
  · exact absurd outside (not_mem_of_blanks starts solid)
  · exact (List.mem_append.mp within).resolve_right (not_mem_of_blanks ends solid)

theorem uncommented_append (plain : ';' ∉ front) : uncommented (front ++ back) = front ++ uncommented back :=
  List.takeWhile_append_of_pos (bne_of_not_mem plain)

end Marks

/-! ## Single lines -/

/-- Two lines with the same label and code. -/
structure Agrees (line other : List Char) : Prop where
  marked : ':' ∈ other ↔ ':' ∈ line
  label : labelText other = labelText line
  code : codeOf other = codeOf line

section Lines

variable {line other front back : List Char}

theorem Agrees.keeps (agrees : Agrees line other) (wellLabelled : WellLabelled line) : Keeps [line] [other] where
  wellLabelled := by
    rw [List.forall_mem_singleton]
    intro labelled
    rw [agrees.label, agrees.code]
    exact wellLabelled (agrees.marked.mp labelled)
  codes := by simp only [codes, List.map_singleton, agrees.code]
  addresses := by simp only [addresses, addressesBy, labelOf?, agrees.marked, agrees.label]

theorem no_colon_of_blanks (blanks : Blanks line) : ':' ∉ line := not_mem_of_blanks blanks (by decide)

theorem agrees_padded (before : Blanks front) (after : Blanks back) : Agrees line (front ++ (line ++ back)) := by
  have first := no_colon_of_blanks before
  have last := no_colon_of_blanks after
  by_cases labelled : ':' ∈ line
  · obtain ⟨label, rest, rfl, plain⟩ := List.eq_append_cons_of_mem labelled
    have parts : front ++ (label ++ ':' :: rest ++ back) = front ++ label ++ ':' :: (rest ++ back) := by simp
    have whole : ':' ∉ front ++ label := by simp [first, plain]
    refine ⟨by simp, ?_, ?_⟩
    · rw [parts, labelText_of_label whole, labelText_of_label plain, trim_behind before]
    · rw [parts, codeOf_of_label whole, codeOf_of_label plain, trim_before after]
  · have plain : ':' ∉ front ++ (line ++ back) := by simp [first, last, labelled]
    refine ⟨iff_of_false plain labelled, ?_, ?_⟩
    · rw [labelText_of_plain plain, labelText_of_plain labelled, trim_around before after]
    · rw [codeOf_of_plain plain, codeOf_of_plain labelled, trim_around before after]

theorem keeps_blank (blank : Blanks line) : Keeps [] [line] := by
  have plain := no_colon_of_blanks blank
  have code : codeOf line = [] := by rw [codeOf_of_plain plain, trim_of_blanks blank]
  refine ⟨?_, ?_, ?_⟩
  · rw [List.forall_mem_singleton]
    exact fun labelled => absurd labelled plain
  · simp [codes, code]
  · simp [addresses, addressesBy, labelOf?, plain]

/-- A label in front of a code has the same address on a line of its own. -/
theorem keeps_parted {label rest code : List Char} (unmarked : ':' ∉ label) (same : trim code = trim rest)
    (wellLabelled : WellLabelled (label ++ ':' :: rest)) (renamed : trim other = trim label) (plain : ':' ∉ other) :
    Keeps [label ++ ':' :: rest] [other ++ [':'], code] := by
  have free := labelProblem?_eq_none_iff.mp (wellLabelled (by simp))
  rw [labelText_of_label unmarked, codeOf_of_label unmarked] at free
  obtain ⟨single, named, unreserved⟩ := free
  -- There is no second label behind the first, so what is left is no label.
  have unlabelled : ':' ∉ code := by
    intro labelled
    rw [← same] at single
    exact single (mem_trim labelled (by decide))
  have none : codeOf (other ++ [':']) = [] := codeOf_of_label plain
  have moved : labelText (other ++ [':']) = trim label := (labelText_of_label plain).trans renamed
  have left : codeOf code = trim rest := (codeOf_of_plain unlabelled).trans same
  refine ⟨?_, ?_, ?_⟩
  · rw [List.forall_mem_cons, List.forall_mem_singleton]
    refine ⟨fun _ => ?_, fun labelled => absurd labelled unlabelled⟩
    rw [moved, none, labelProblem?_eq_none_iff]
    exact ⟨List.not_mem_nil, named, unreserved⟩
  · simp [codes, none, left, codeOf_of_label unmarked]
  · simp [addresses, addressesBy, labelOf?, none, moved, labelText_of_label unmarked, unlabelled]

theorem Recast.keeps {new : List (List Char)} (recast : Recast line new)
    (wellLabelled : WellLabelled (uncommented line)) : Keeps [uncommented line] (new.map uncommented) := by
  -- The new lines are cut at their comments first; what is then left has the label and the code.
  cases recast with
  | comment line note =>
    have cut : uncommented (line ++ ';' :: note) = uncommented line := takeWhile_append_cons_of_stop (by decide)
    rw [List.map_singleton, cut]
    exact Agrees.keeps ⟨Iff.rfl, rfl, rfl⟩ wellLabelled
  | @pad line front back plain before after =>
    have whole : ';' ∉ front ++ (line ++ back) := by
      simp [plain, not_mem_of_blanks before, not_mem_of_blanks after, show isBlank ';' = false by decide]
    rw [uncommented_of_plain plain] at wellLabelled ⊢
    rw [List.map_singleton, uncommented_of_plain whole]
    exact (agrees_padded before after).keeps wellLabelled
  | @part label rest front gap outer inner unmarked before between outside inside =>
    have mark {blanks : List Char} (blank : Blanks blanks) : ';' ∉ blanks := not_mem_of_blanks blank (by decide)
    have colon : ':' ∉ label := unmarked ':' (by simp)
    have semicolon : ';' ∉ label := unmarked ';' (by simp)
    have whole : uncommented (front ++ (label ++ ':' :: (gap ++ rest))) =
        front ++ label ++ ':' :: (gap ++ uncommented rest) := by
      rw [uncommented_append (mark before), uncommented_append semicolon, List.append_assoc,
        ← uncommented_append (mark between)]
      rfl
    have above : uncommented (outer ++ (label ++ [':'])) = outer ++ label ++ [':'] := by
      rw [uncommented_append (mark outside), uncommented_append semicolon, List.append_assoc]
      rfl
    rw [whole] at wellLabelled ⊢
    rw [List.map_cons, List.map_singleton, above, uncommented_append (mark inside)]
    refine keeps_parted ?_ ?_ wellLabelled ?_ ?_
    · simp [no_colon_of_blanks before, colon]
    · rw [trim_behind inside, trim_behind between]
    · rw [trim_behind outside, trim_behind before]
    · simp [no_colon_of_blanks outside, colon]

end Lines

/-! ## Whole texts -/

section Texts

variable {text other : List Char} {program : Program}

theorem lines_newline (text : List Char) : lines (text ++ ['\n']) = lines text ++ [[]] :=
  splitAtEach_append '\n' text []

theorem Rearranges.keeps (rearranges : Rearranges text other)
    (wellLabelled : ∀ line ∈ sourceLines text, WellLabelled line) : Keeps (sourceLines text) (sourceLines other) := by
  -- A line feed at the end is an empty line that is put in below the others.
  have inserted {above below : List (List Char)} {line : List Char} (split : lines text = above ++ below)
      (blank : Blanks (uncommented line)) (joined : lines other = above ++ line :: below) :
      Keeps (sourceLines text) (sourceLines other) := by
    rw [sourceLines, split, List.map_append, List.forall_mem_append] at wellLabelled
    rw [sourceLines, sourceLines, split, joined, List.map_append, List.map_append, List.map_cons]
    exact (keeps_blank blank).within wellLabelled.1 wellLabelled.2
  cases rearranges with
  | insert split blank joined => exact inserted split blank joined
  | newline ended =>
    refine @inserted (lines text) [] [] (List.append_nil _).symm (List.forall_mem_nil _) ?_
    rw [ended, lines_newline]
  | recast split recast joined =>
    rw [sourceLines, split, List.map_append, List.map_cons, List.forall_mem_append,
      List.forall_mem_cons] at wellLabelled
    rw [sourceLines, sourceLines, split, joined, List.map_append, List.map_append, List.map_append, List.map_cons]
    exact (recast.keeps wellLabelled.2.1).within wellLabelled.1 wellLabelled.2.2

theorem Rearranges.assemble_eq (rearranges : Rearranges text other) (accepted : assemble text = .ok program) :
    assemble other = .ok program := by
  obtain ⟨wellLabelled, distinct, table, encoded⟩ := assemble_eq_ok_iff.mp accepted
  have keeps := rearranges.keeps wellLabelled
  refine assemble_eq_ok_iff.mpr ⟨keeps.wellLabelled, ?_, table.trans keeps.addresses.symm, ?_⟩
  · rw [← keys_addressesBy, ← addresses, keeps.addresses, addresses, keys_addressesBy]
    exact distinct
  · rwa [keeps.codes]

/-- However a text is rearranged, it has the same words, and the same labels in the same order. -/
theorem assemble_rearranged (changes : Relation.ReflTransGen Rearranges text other)
    (accepted : assemble text = .ok program) : assemble other = .ok program := by
  induction changes with
  | refl => exact accepted
  | tail _ change unchanged => exact change.assemble_eq unchanged

theorem assemble_rearranged_loop :
    assemble "go: jmp go ; on".toList = .ok ⟨[0x8000], [("go", 0)]⟩ ∧
      Relation.ReflTransGen Rearranges "go: jmp go ; on".toList "; top\n\t go:\r;here\n  jmp go ; on\n".toList ∧
      assemble "; top\n\t go:\r;here\n  jmp go ; on\n".toList = .ok ⟨[0x8000], [("go", 0)]⟩ := by
  have accepted : assemble "go: jmp go ; on".toList = .ok ⟨[0x8000], [("go", 0)]⟩ := by decide +kernel
  have parted : Rearranges "go: jmp go ; on".toList "go:\n  jmp go ; on".toList :=
    @Rearranges.recast _ _ [] _ [] _ (by rfl)
      (@Recast.part "go".toList "jmp go ; on".toList [] [' '] [] [' ', ' '] (by simp) (by decide) (by decide)
        (by decide) (by decide)) (by rfl)
  have padded : Rearranges "go:\n  jmp go ; on".toList "\t go:\r\n  jmp go ; on".toList :=
    @Rearranges.recast _ _ [] _ ["  jmp go ; on".toList] _ (by rfl)
      (@Recast.pad "go:".toList ['\t', ' '] ['\r'] (by decide) (by decide) (by decide)) (by rfl)
  have commented : Rearranges "\t go:\r\n  jmp go ; on".toList "\t go:\r;here\n  jmp go ; on".toList :=
    @Rearranges.recast _ _ [] _ ["  jmp go ; on".toList] _ (by rfl) (.comment "\t go:\r".toList "here".toList) (by rfl)
  have inserted : Rearranges "\t go:\r;here\n  jmp go ; on".toList "; top\n\t go:\r;here\n  jmp go ; on".toList :=
    @Rearranges.insert _ _ [] _ "; top".toList (by rfl) (by decide) (by rfl)
  have ended : Rearranges "; top\n\t go:\r;here\n  jmp go ; on".toList
      "; top\n\t go:\r;here\n  jmp go ; on\n".toList := .newline (by rfl)
  have changes := (((Relation.ReflTransGen.single parted).tail padded).tail commented).tail inserted |>.tail ended
  exact ⟨accepted, changes, assemble_rearranged changes accepted⟩

end Texts

end HarvardBench.Assembly
