import HarvardBench.Assembly.Layout
import HarvardBench.Proofs.Success
import HarvardBench.Proofs.Symbols
import HarvardBench.Proofs.Text.Trimming
import Mathlib.Data.List.Basic

/-! What the lines of a source text say by themselves.

Each uncommented line has a code and perhaps a label. Counting lines gives the address
of every label without a scan that carries a state, and the scan finds the same
addresses.
-/

set_option autoImplicit false

namespace HarvardBench.Assembly

open Text

/-- The code of an uncommented line: what stands behind its first colon, or all of it. -/
def codeOf (line : List Char) : List Char :=
  match line.dropWhile fun c => c != ':' with
  | [] => trim line
  | _ :: rest => trim rest

def labelText (line : List Char) : List Char := trim (line.takeWhile fun c => c != ':')

def labelOf? (line : List Char) : Option String :=
  if ':' ∈ line then some (String.ofList (labelText line)) else none

/-- A label is a name that is free to be one, and only one stands on a line. -/
def WellLabelled (line : List Char) : Prop :=
  ':' ∈ line → Line.labelProblem? (labelText line) (codeOf line) = none

def declared (lines : List (List Char)) : List String := lines.filterMap labelOf?

def codes (lines : List (List Char)) : List (List Char) :=
  (lines.map codeOf).filter fun code => !code.isEmpty

/-- The labels of some lines with their addresses, if lines with some codes take one each. -/
def addressesBy (counts : List Char → Bool) (offset : Nat) : List (List Char) → Symbols
  | [] => []
  | line :: rest =>
    (labelOf? line).toList.map (fun label => (label, (offset : Int))) ++
      addressesBy counts (offset + (counts (codeOf line)).toNat) rest

/-- The label table of some lines: every label has the number of codes before it. -/
def addresses (lines : List (List Char)) : Symbols := addressesBy (fun code => !code.isEmpty) 0 lines

def numbered (number : Nat) : List (List Char) → List Line
  | [] => []
  | line :: rest => ⟨number, labelOf? line, codeOf line⟩ :: numbered (number + 1) rest

section Lines

variable {number : Nat} {text label rest : List Char} {line : Line}

theorem dropWhile_eq_nil_of_not_mem (plain : ':' ∉ text) :
    (text.dropWhile fun c => c != ':') = [] :=
  List.dropWhile_eq_nil_iff.mpr (bne_of_not_mem plain)

theorem dropWhile_ne_nil_of_mem (labelled : ':' ∈ text) :
    (text.dropWhile fun c => c != ':') ≠ [] := by
  intro none
  have := List.dropWhile_eq_nil_iff.mp none ':' labelled
  simp at this

theorem codeOf_of_plain (plain : ':' ∉ text) : codeOf text = trim text := by
  rw [codeOf, dropWhile_eq_nil_of_not_mem plain]

theorem codeOf_of_label (plain : ':' ∉ label) : codeOf (label ++ ':' :: rest) = trim rest := by
  rw [codeOf, dropWhile_append_of_stop (bne_of_not_mem plain) (by simp)]

theorem labelText_of_label (plain : ':' ∉ label) : labelText (label ++ ':' :: rest) = trim label := by
  rw [labelText, takeWhile_append_of_stop (bne_of_not_mem plain) (by simp)]

theorem labelText_of_plain (plain : ':' ∉ text) : labelText text = trim text := by
  rw [labelText, List.takeWhile_eq_self_iff.mpr (bne_of_not_mem plain)]

theorem labelProblem?_eq_none_iff {code : List Char} :
    Line.labelProblem? label code = none ↔ ':' ∉ code ∧ isName label = true ∧ isReserved label = false := by
  unfold Line.labelProblem?
  by_cases two : ':' ∈ code
  · simp [two]
  · cases isName label <;> cases isReserved label <;> simp [two]

theorem parse_eq_ok_iff :
    Line.parse number text = .ok line ↔
      WellLabelled text ∧ line = ⟨number, labelOf? text, codeOf text⟩ := by
  unfold Line.parse WellLabelled labelOf? codeOf labelText
  by_cases labelled : ':' ∈ text
  · obtain ⟨colon, rest, split⟩ := List.exists_cons_of_ne_nil (dropWhile_ne_nil_of_mem labelled)
    simp only [split, labelled, if_true, forall_const]
    cases Line.labelProblem? (trim (text.takeWhile fun c => c != ':')) (trim rest) with
    | some problem => simp
    | none => simp [eq_comm]
  · simp only [dropWhile_eq_nil_of_not_mem labelled, labelled, if_false, false_implies, true_and,
      Except.ok.injEq, eq_comm]

theorem trimmed_codeOf (text : List Char) : Trimmed (codeOf text) := by
  unfold codeOf
  split
  · exact trimmed_trim text
  · next rest _ => exact trimmed_trim rest

end Lines

/-! ## Laying out -/

section Layouts

variable {layout result : Layout} {number : Nat} {lines : List (List Char)}

def Layout.extended (layout : Layout) (number : Nat) (lines : List (List Char)) : Layout where
  lines := layout.lines ++ numbered number lines
  symbols := layout.symbols ++ addressesBy (fun code => 1 < code.length) layout.offset lines
  offset := layout.offset + ((lines.map codeOf).filter fun code => 1 < code.length).length

def Layout.advanced (layout : Layout) (line : Line) : Layout where
  lines := layout.lines ++ [line]
  symbols := layout.symbols ++ line.label.toList.map fun label => (label, (layout.offset : Int))
  offset := layout.offset + line.occupies.toNat

theorem add_eq_ok_iff {line : Line} :
    layout.add line = .ok result ↔
      (∀ label ∈ line.label, label ∉ layout.symbols.keys) ∧ result = layout.advanced line := by
  have advance : (if line.occupies then layout.offset + 1 else layout.offset) =
      layout.offset + line.occupies.toNat := by
    cases line.occupies <;> rfl
  unfold Layout.add Layout.declare Layout.place Layout.advanced
  rw [eq_comm (a := result)]
  cases line.label with
  | none => simp [Except.map, advance]
  | some label =>
    by_cases known : label ∈ layout.symbols.keys
    · simp [Except.map, known]
    · simp [Except.map, known, advance]

theorem keys_advanced (layout : Layout) (line : Line) :
    (layout.advanced line).symbols.keys = layout.symbols.keys ++ line.label.toList := by
  cases named : line.label <;> simp [Layout.advanced, Table.keys, named]

theorem extended_advanced (layout : Layout) (number : Nat) (text : List Char) (rest : List (List Char)) :
    (layout.advanced ⟨number, labelOf? text, codeOf text⟩).extended (number + 1) rest =
      layout.extended number (text :: rest) := by
  by_cases long : 1 < (codeOf text).length
  · simp [Layout.extended, Layout.advanced, Line.occupies, numbered, addressesBy, long,
      Nat.add_assoc, Nat.add_comm 1]
  · simp [Layout.extended, Layout.advanced, Line.occupies, numbered, addressesBy, long]

theorem declared_cons (text : List Char) (rest : List (List Char)) :
    declared (text :: rest) = (labelOf? text).toList ++ declared rest := by
  cases named : labelOf? text <;> simp [declared, named]

theorem nodup_append_label {keys later : List String} {label : Option String} :
    (keys ++ (label.toList ++ later)).Nodup ↔
      (∀ name ∈ label, name ∉ keys) ∧ ((keys ++ label.toList) ++ later).Nodup := by
  rw [List.append_assoc]
  refine ⟨fun all => ⟨?_, all⟩, And.right⟩
  rintro name rfl known
  exact (List.nodup_append.mp all).2.2 name known name (by simp) rfl

theorem nodup_append_fresh {keys : List String} {label : Option String} (distinct : keys.Nodup)
    (fresh : ∀ name ∈ label, name ∉ keys) : (keys ++ label.toList).Nodup := by
  cases label with
  | none => simpa using distinct
  | some name =>
    rw [Option.toList_some, ← List.concat_eq_append]
    exact List.Nodup.concat (fresh name rfl) distinct

/-- Lines are laid out one behind the other, unless a label has a problem or is repeated. -/
theorem extend_eq_ok_iff (distinct : layout.symbols.keys.Nodup) :
    layout.extend number lines = .ok result ↔
      (∀ line ∈ lines, WellLabelled line) ∧ (layout.symbols.keys ++ declared lines).Nodup ∧
        result = layout.extended number lines := by
  induction lines generalizing layout number with
  | nil =>
    have none : layout.extended number [] = layout := by simp [Layout.extended, numbered, addressesBy]
    simp only [Layout.extend, none, declared, List.filterMap_nil, List.append_nil, distinct,
      List.not_mem_nil, false_implies, implies_true, true_and, Except.ok.injEq]
    exact eq_comm
  | cons text rest ih =>
    have step : layout.extend number (text :: rest) = .ok result ↔
        ∃ line, Line.parse number text = .ok line ∧ ∃ next, layout.add line = .ok next ∧
          next.extend (number + 1) rest = .ok result := by
      simp only [Layout.extend, bind_eq_ok_iff]
    rw [step, List.forall_mem_cons, declared_cons, nodup_append_label, ← extended_advanced]
    simp only [parse_eq_ok_iff, add_eq_ok_iff]
    have keys := keys_advanced layout ⟨number, labelOf? text, codeOf text⟩
    -- The scan goes on from a layout with one more line and perhaps one more label.
    have later (fresh : ∀ name ∈ labelOf? text, name ∉ layout.symbols.keys) :=
      @ih (layout.advanced ⟨number, labelOf? text, codeOf text⟩) (number + 1)
        (keys ▸ nodup_append_fresh distinct fresh)
    rw [keys] at later
    constructor
    · rintro ⟨_, ⟨wellLabelled, rfl⟩, _, ⟨fresh, rfl⟩, success⟩
      obtain ⟨others, distinctAll, made⟩ := (later fresh).mp success
      exact ⟨⟨wellLabelled, others⟩, ⟨fresh, distinctAll⟩, made⟩
    · rintro ⟨⟨wellLabelled, others⟩, ⟨fresh, distinctAll⟩, made⟩
      exact ⟨_, ⟨wellLabelled, rfl⟩, _, ⟨fresh, rfl⟩, (later fresh).mpr ⟨others, distinctAll, made⟩⟩

end Layouts

end HarvardBench.Assembly
