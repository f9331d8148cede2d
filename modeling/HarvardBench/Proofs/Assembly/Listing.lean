import HarvardBench.Proofs.Assembly.Addressing
import HarvardBench.Proofs.Assembly.Printing

/-! Listings of programs.

A listing declares the labels of each address and shows the word there. Laid out again,
it has the labels of an accepted program at the same addresses, because the table of
an accepted program is in the order of addresses.
-/

set_option autoImplicit false

namespace HarvardBench.Assembly

open Text

def labelLines (symbols : Symbols) (address : Nat) : List String :=
  (symbols.filter fun entry => entry.2 == (address : Int)).map fun entry => entry.1 ++ ":"

/-- The labels of an address and its word, and so on for the words behind it. Behind the
last word stand the labels of the address after it. -/
def listingFrom (symbols : Symbols) (address : Nat) : List Word → List String
  | [] => labelLines symbols address
  | word :: rest =>
    labelLines symbols address ++ word.text symbols :: listingFrom symbols (address + 1) rest

def Program.listing (program : Program) : String :=
  "\n".intercalate (listingFrom program.symbols 0 program.words)

/-! ## Single lines -/

theorem codeOf_of_bare {line : List Char} (bare : IsBare line) : codeOf line = line := by
  rw [codeOf_of_plain (bare.unmarked ':' (by simp)), trim_of_trimmed bare.trimmed]

section LabelLines

variable {name : List Char} (named : isName name = true)

include named

theorem no_colon_of_name : ':' ∉ name :=
  (isBare_of_isPart (isPart_name named)).unmarked ':' (by simp)

theorem labelText_label : labelText (name ++ [':']) = name := by
  rw [labelText_of_label (no_colon_of_name named), trim_of_trimmed (trimmed_of_isPart (isPart_name named))]

theorem labelOf?_label : labelOf? (name ++ [':']) = some (String.ofList name) := by
  rw [labelOf?, labelText_label named, if_pos (by simp)]

theorem codeOf_label : codeOf (name ++ [':']) = [] := by
  rw [codeOf_of_label (no_colon_of_name named), trim_nil]

theorem wellLabelled_label (free : isReserved name = false) : WellLabelled (name ++ [':']) := by
  intro _
  rw [labelText_label named, codeOf_label named, labelProblem?_eq_none_iff]
  exact ⟨List.not_mem_nil, named, free⟩

end LabelLines

section Listings

variable {symbols : Symbols} (declarable : Declarable symbols)

include declarable

/-- What the lines of a listing are: labels that can be declared, or statements. -/
theorem line_of_listing {address : Nat} {words : List Word} {line : String}
    (member : line ∈ listingFrom symbols address words) :
    (∃ name, isName name = true ∧ isReserved name = false ∧ line.toList = name ++ [':']) ∨
      IsBare line.toList := by
  have labels {address : Nat} (member : line ∈ labelLines symbols address) :
      ∃ name, isName name = true ∧ isReserved name = false ∧ line.toList = name ++ [':'] := by
    obtain ⟨entry, found, rfl⟩ := List.mem_map.mp member
    have key : entry.1 ∈ symbols.keys := List.mem_map.mpr ⟨entry, (List.mem_filter.mp found).1, rfl⟩
    exact ⟨entry.1.toList, declarable.named _ key, declarable.free _ key, by simp⟩
  induction words generalizing address with
  | nil => exact .inl (labels member)
  | cons word rest ih =>
    rcases List.mem_append.mp member with label | later
    · exact .inl (labels label)
    · rcases List.mem_cons.mp later with rfl | more
      · exact .inr (isBare_text declarable word.instruction)
      · exact ih more

theorem unmarked_listing {address : Nat} {words : List Word} {line : String}
    (member : line ∈ listingFrom symbols address words) : '\n' ∉ line.toList ∧ ';' ∉ line.toList := by
  rcases line_of_listing declarable member with ⟨name, named, _, written⟩ | bare
  · have bare := isBare_of_isPart (isPart_name named)
    simpa [written] using And.intro (bare.unmarked '\n' (by simp)) (bare.unmarked ';' (by simp))
  · exact ⟨bare.unmarked '\n' (by simp), bare.unmarked ';' (by simp)⟩

theorem wellLabelled_listing {address : Nat} {words : List Word} {line : String}
    (member : line ∈ listingFrom symbols address words) : WellLabelled line.toList := by
  rcases line_of_listing declarable member with ⟨name, named, free, written⟩ | bare
  · exact written ▸ wellLabelled_label named free
  · exact fun labelled => absurd labelled (bare.unmarked ':' (by simp))

theorem outline_labelLines (address : Nat) :
    codes ((labelLines symbols address).map String.toList) = [] ∧
      addressesBy (fun code => !code.isEmpty) address ((labelLines symbols address).map String.toList) =
        symbols.filter fun entry => entry.2 == (address : Int) := by
  have each : ∀ entry ∈ symbols.filter fun entry => entry.2 == (address : Int),
      isName entry.1.toList = true ∧ entry = (entry.1, (address : Int)) := by
    intro entry member
    obtain ⟨known, same⟩ := List.mem_filter.mp member
    exact ⟨declarable.named _ (List.mem_map.mpr ⟨entry, known, rfl⟩),
      Prod.ext rfl (by simpa using same)⟩
  -- The induction needs only that all entries have names and this address.
  unfold labelLines
  generalize symbols.filter (fun entry => entry.2 == (address : Int)) = entries at each
  induction entries with
  | nil => exact ⟨rfl, rfl⟩
  | cons entry rest ih =>
    rw [List.forall_mem_cons] at each
    obtain ⟨⟨named, placed⟩, others⟩ := each
    obtain ⟨noCodes, table⟩ := ih others
    have line : (entry.1 ++ ":").toList = entry.1.toList ++ [':'] := by simp
    constructor
    · simpa [codes, line, codeOf_label named] using noCodes
    · rw [List.map_cons, List.map_cons, addressesBy, line, labelOf?_label named, codeOf_label named]
      simp only [List.isEmpty_nil, Bool.not_true, Bool.toNat_false, Nat.add_zero, table]
      simp [← placed]

theorem codes_listing (address : Nat) (words : List Word) :
    codes ((listingFrom symbols address words).map String.toList) =
      words.map fun word => (word.text symbols).toList := by
  induction words generalizing address with
  | nil => exact (outline_labelLines declarable address).1
  | cons word rest ih =>
    have bare : IsBare (word.text symbols).toList := isBare_text declarable word.instruction
    have code := codeOf_of_bare bare
    rw [listingFrom, List.map_append, codes_append, (outline_labelLines declarable address).1,
      List.map_cons, codes_cons_of_filled (by rw [code]; exact bare.filled), code, ih]
    rfl

theorem addresses_listing (address : Nat) (words : List Word) :
    addressesBy (fun code => !code.isEmpty) address ((listingFrom symbols address words).map String.toList) =
      (List.range' address (words.length + 1)).flatMap fun next : Nat =>
        symbols.filter fun entry => entry.2 == (next : Int) := by
  induction words generalizing address with
  | nil =>
    rw [List.length_nil, List.range'_one, List.flatMap_singleton]
    exact (outline_labelLines declarable address).2
  | cons word rest ih =>
    obtain ⟨noCodes, table⟩ := outline_labelLines declarable address
    -- The statement that is printed for a word is a line of code without a label.
    have bare : IsBare (word.text symbols).toList := isBare_text declarable word.instruction
    have code := codeOf_of_bare bare
    have unlabelled : labelOf? (word.text symbols).toList = none := by
      rw [labelOf?, if_neg (bare.unmarked ':' (by simp))]
    have none : (((labelLines symbols address).map String.toList).map codeOf |>.filter
        fun code => !code.isEmpty).length = 0 := by
      rw [← codes, noCodes, List.length_nil]
    rw [listingFrom, List.map_append, addressesBy_append, table, none, List.map_cons, addressesBy,
      unlabelled, code, List.isEmpty_eq_false_iff.mpr bare.filled, List.length_cons, List.range'_succ,
      List.flatMap_cons]
    simp only [Bool.not_false, Bool.toNat_true, Nat.add_zero, Option.toList_none, List.map_nil,
      List.nil_append, ih]

end Listings

theorem filter_append_filter_of_ordered {symbols : Symbols} {start : Int}
    (ordered : symbols.Pairwise fun first second => first.2 ≤ second.2)
    (low : ∀ entry ∈ symbols, start ≤ entry.2) :
    (symbols.filter fun entry => entry.2 == start) ++ (symbols.filter fun entry => start < entry.2) =
      symbols := by
  induction symbols with
  | nil => rfl
  | cons entry rest ih =>
    rw [List.pairwise_cons] at ordered
    rw [List.forall_mem_cons] at low
    -- Entries at the start come first, and from the first one above on all are above.
    by_cases least : entry.2 = start
    · simpa [least] using ih ordered.2 low.2
    · have above : start < entry.2 := Int.lt_iff_le_and_ne.mpr ⟨low.1, Ne.symm least⟩
      have all : ∀ other ∈ entry :: rest, start < other.2 := by
        intro other member
        rcases List.mem_cons.mp member with rfl | later
        · exact above
        · exact Int.lt_of_lt_of_le above (ordered.1 other later)
      have none : ((entry :: rest).filter fun entry => entry.2 == start) = [] := by
        rw [List.filter_eq_nil_iff]
        intro other member
        rw [beq_iff_eq]
        exact Int.ne_of_gt (all other member)
      rw [none, List.nil_append, List.filter_eq_self]
      simpa using all

/-- A table in the order of addresses is put together from its parts for each address. -/
theorem flatMap_filter_range' {symbols : Symbols} {start count : Nat}
    (ordered : symbols.Pairwise fun first second => first.2 ≤ second.2)
    (bounded : ∀ entry ∈ symbols, (start : Int) ≤ entry.2 ∧ entry.2 < (start + count : Nat)) :
    ((List.range' start count).flatMap fun address : Nat =>
      symbols.filter fun entry => entry.2 == (address : Int)) = symbols := by
  induction count generalizing start symbols with
  | zero =>
    cases symbols with
    | nil => rfl
    | cons entry rest =>
      have := bounded entry (by simp)
      omega
  | succ count ih =>
    have split := filter_append_filter_of_ordered ordered fun entry member => (bounded entry member).1
    -- The other addresses are found in the second part only.
    have later := @ih (symbols.filter fun entry => (start : Int) < entry.2) (start + 1)
      (ordered.filter _) (by
        intro entry member
        obtain ⟨known, above⟩ := List.mem_filter.mp member
        have := bounded entry known
        simp only [decide_eq_true_eq] at above
        omega)
    rw [List.range'_succ, List.flatMap_cons]
    conv => rhs; rw [← split, ← later]
    congr 1
    apply List.flatMap_congr
    intro address member
    have above := (List.mem_range'_1.mp member).1
    rw [List.filter_filter]
    apply List.filter_congr
    intro entry _
    rw [Bool.eq_iff_iff]
    simp only [beq_iff_eq, Bool.and_eq_true, decide_eq_true_eq]
    omega

/-! ## Whole listings -/

theorem uncommented_of_plain {line : List Char} (plain : ';' ∉ line) : uncommented line = line := by
  unfold uncommented
  exact List.takeWhile_eq_self_iff.mpr (bne_of_not_mem plain)

/-- The lines of joined lines are the same lines; no lines at all are joined to an empty one. -/
theorem sourceLines_intercalate {joined : List (List Char)}
    (unmarked : ∀ line ∈ joined, '\n' ∉ line ∧ ';' ∉ line) :
    sourceLines (List.intercalate ['\n'] joined) = if joined = [] then [[]] else joined := by
  cases joined with
  | nil => rfl
  | cons first rest =>
    rw [sourceLines, lines_intercalate fun line member => (unmarked line member).1,
      if_neg (List.cons_ne_nil first rest)]
    exact (List.map_congr_left fun line member => uncommented_of_plain (unmarked line member).2).trans (List.map_id _)

theorem sourceLines_joined {joined : List String}
    (unmarked : ∀ line ∈ joined, '\n' ∉ line.toList ∧ ';' ∉ line.toList) :
    sourceLines ("\n".intercalate joined).toList =
      if joined = [] then [[]] else joined.map String.toList := by
  rw [String.toList_intercalate, show "\n".toList = ['\n'] from rfl,
    sourceLines_intercalate (List.forall_mem_map.mpr unmarked)]
  simp only [List.map_eq_nil_iff]

theorem free_of_wellLabelled {line : List Char} {label : String} (wellLabelled : WellLabelled line)
    (named : labelOf? line = some label) :
    isName label.toList = true ∧ isReserved label.toList = false := by
  unfold labelOf? at named
  split at named
  · next labelled =>
    obtain rfl := Option.some.inj named
    rw [String.toList_ofList]
    exact (labelProblem?_eq_none_iff.mp (wellLabelled labelled)).2
  · contradiction

theorem declarable_of_accepted {text : List Char} {program : Program}
    (accepted : assemble text = .ok program) : Declarable program.symbols := by
  obtain ⟨wellLabelled, distinct, table, _⟩ := assemble_eq_ok_iff.mp accepted
  have keys : program.symbols.keys = declared (sourceLines text) := by
    rw [table, addresses, keys_addressesBy]
  have labels : ∀ label ∈ program.symbols.keys,
      isName label.toList = true ∧ isReserved label.toList = false := by
    intro label member
    rw [keys] at member
    obtain ⟨line, known, named⟩ := List.mem_filterMap.mp member
    exact free_of_wellLabelled (wellLabelled line known) named
  exact
    { distinct := keys ▸ distinct
      natural := table ▸ natural_addresses _
      named := fun label member => (labels label member).1
      free := fun label member => (labels label member).2 }

theorem namesFlags_of_encodes {symbols : Symbols} {code : List Char} {word : Word}
    (encodes : Encodes symbols code word) : ∃ found, NamesFlags found ∧ word = found.word := by
  obtain ⟨_, _, accepted⟩ := encodes
  exact exists_of_statementWord accepted

/-- The listing of an accepted program is accepted as the same program. -/
theorem assemble_listing {text : List Char} {program : Program} (accepted : assemble text = .ok program) :
    assemble program.listing.toList = .ok program := by
  have declarable := declarable_of_accepted accepted
  obtain ⟨_, _, table, encoded⟩ := assemble_eq_ok_iff.mp accepted
  have sameTable : addresses ((listingFrom program.symbols 0 program.words).map String.toList) =
      program.symbols := by
    rw [addresses, addresses_listing declarable]
    apply flatMap_filter_range'
    · rw [table]
      exact pairwise_addressesBy _
    · intro entry member
      rw [table] at member
      obtain ⟨low, high⟩ := bounds_addressesBy member
      have count := encoded.length_eq
      rw [codes] at count
      omega
  have sameWords : List.Forall₂ (Encodes program.symbols)
      (codes ((listingFrom program.symbols 0 program.words).map String.toList)) program.words := by
    rw [codes_listing declarable, List.forall₂_map_left_iff, List.forall₂_same]
    intro word member
    obtain ⟨code, _, encodes⟩ := exists_of_mem_forall₂ encoded.flip member
    obtain ⟨found, named, rfl⟩ := namesFlags_of_encodes encodes
    rw [Word.text, Instruction.instruction_word]
    exact encodes_text declarable named
  -- A program without words and labels has no lines, which join to one empty line.
  rw [assemble_eq_ok_iff, Program.listing, sourceLines_joined fun line => unmarked_listing declarable]
  split
  · next none =>
    rw [none] at sameTable sameWords
    exact ⟨by simp [WellLabelled], by simp [declared, labelOf?], sameTable.symm, sameWords⟩
  · refine ⟨?_, ?_, sameTable.symm, sameWords⟩
    · intro line member
      obtain ⟨source, known, rfl⟩ := List.mem_map.mp member
      exact wellLabelled_listing declarable known
    · rw [← keys_addressesBy, ← addresses, sameTable]
      exact declarable.distinct

theorem assemble_listing_call :
    assemble "d5:\nxff: jmp add\nadd:\n call d5".toList =
        .ok ⟨[0x8001, 0xD000], [("d5", 0), ("xff", 0), ("add", 1)]⟩ ∧
      assemble (Program.listing ⟨[0x8001, 0xD000], [("d5", 0), ("xff", 0), ("add", 1)]⟩).toList =
        .ok ⟨[0x8001, 0xD000], [("d5", 0), ("xff", 0), ("add", 1)]⟩ :=
  have accepted : assemble "d5:\nxff: jmp add\nadd:\n call d5".toList =
      .ok ⟨[0x8001, 0xD000], [("d5", 0), ("xff", 0), ("add", 1)]⟩ := by decide +kernel
  ⟨accepted, assemble_listing accepted⟩

example : (Program.listing ⟨[0x8001, 0xD000], [("d5", 0), ("xff", 0), ("add", 1)]⟩) =
    "d5:\nxff:\nJMP add\nadd:\nCALL d5" := by decide +kernel

end HarvardBench.Assembly
