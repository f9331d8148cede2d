import HarvardBench.Proofs.Assembly.Grammar
import HarvardBench.Text.CodePoint
import HarvardBench.Text.LetterCase

/-! Letter case within ASCII.

Texts that differ in nothing but the case of their ASCII letters have the same lower case. A name in
ASCII letters can be the upper case of other texts too, since some characters outside ASCII have an
upper case within it, but the name LCPU is not.
-/

set_option autoImplicit false

namespace HarvardBench

def CodePoint.toLower : CodePoint → CodePoint
  | char c => char c.toLower
  | surrogate index => surrogate index

/-- The texts differ in nothing but the case of their ASCII letters. -/
def RawText.SameLetters (first second : RawText) : Prop :=
  first.map CodePoint.toLower = second.map CodePoint.toLower

namespace Text

open Grammar (toNat_toLower toNat_toUpper toNat_of_isLower)

/-! ### Lower case -/

section

variable {c : Char}

/-- What is alike for the two cases of every ASCII letter does not change in lower case. -/
theorem congr_toLower {α : Type} {f : Nat → α} (alike : ∀ letter < 26, f (97 + letter) = f (65 + letter)) :
    f c.toLower.toNat = f c.toNat := by
  rw [toNat_toLower]
  split
  · next upper =>
    have same := alike (c.toNat - 65) (by omega)
    rwa [show 97 + (c.toNat - 65) = c.toNat + 32 by omega, show 65 + (c.toNat - 65) = c.toNat by omega] at same
  · rfl

theorem isCased_toLower : isCased c.toLower = isCased c :=
  congr_toLower (f := inRuns casedBoundaries) (by decide +kernel)

theorem isCaseIgnorable_toLower : isCaseIgnorable c.toLower = isCaseIgnorable c :=
  congr_toLower (f := inRuns ignorableBoundaries) (by decide +kernel)

theorem toLower_toLower : c.toLower.toLower = c.toLower := by
  rw [← Char.toNat_inj, toNat_toLower, if_neg]
  rw [toNat_toLower]
  split <;> omega

theorem lowerChar_toLower : lowerChar c.toLower = lowerChar c := by
  by_cases ascii : c.toNat < 128
  · have still : c.toLower.toNat < 128 := by
      rw [toNat_toLower]
      split <;> omega
    rw [lowerChar, lowerChar, if_pos ascii, if_pos still, toLower_toLower]
  · have same : c.toLower = c := by
      rw [← Char.toNat_inj, toNat_toLower, if_neg (by omega)]
    rw [same]

theorem isSigma_toLower : (c.toLower.toNat = 0x3A3) = (c.toNat = 0x3A3) :=
  congr_toLower (f := fun n => n = 0x3A3) (by decide)

end

theorem touchesCased_map_toLower (text : List Char) :
    touchesCased (text.map Char.toLower) = touchesCased text := by
  have ignorable : isCaseIgnorable ∘ Char.toLower = isCaseIgnorable := funext fun _ => isCaseIgnorable_toLower
  unfold touchesCased
  rw [List.dropWhile_map, ignorable]
  cases text.dropWhile isCaseIgnorable with
  | nil => rfl
  | cons c rest => exact isCased_toLower

theorem lowerAfter_map_toLower (before text : List Char) :
    lowerAfter (before.map Char.toLower) (text.map Char.toLower) = lowerAfter before text := by
  induction text generalizing before with
  | nil => rfl
  | cons c rest ih =>
    rw [List.map_cons, lowerAfter, lowerAfter]
    simp only [isSigma_toLower, touchesCased_map_toLower, lowerChar_toLower]
    rw [← List.map_cons, ih]

/-! ### Upper case -/

theorem toUpper_eq_iff {c letter : Char} (small : letter.isLower = true) :
    c.toUpper = letter.toUpper ↔ c.toLower = letter := by
  have range := toNat_of_isLower small
  rw [← Char.toNat_inj, ← Char.toNat_inj, toNat_toUpper, toNat_toUpper, toNat_toLower, if_pos range]
  split <;> split <;> omega

theorem upperChar_ne_nil (c : Char) : upperChar c ≠ [] := by
  have expanded : ∀ entry ∈ upperExpansions.toList, entry.2.isEmpty = false := by decide +kernel
  unfold upperChar
  split
  · nofun
  · split
    · next entry found =>
      have filled := expanded entry (Array.mem_of_find?_eq_some found).val
      rw [List.isEmpty_eq_false_iff] at filled
      simpa using filled
    · nofun

/-- A text has the upper case of a name exactly if it is a spelling of it, as long as no character
outside ASCII has an upper case that begins with a letter of the name. -/
theorem upper_eq_iff {name : List Char} (small : ∀ letter ∈ name, letter.isLower = true)
    (own : ∀ letter ∈ name, ∀ c : Char, 128 ≤ c.toNat → (upperChar c).head? ≠ some letter.toUpper) (text : List Char) :
    upper text = name.map Char.toUpper ↔ text.map Char.toLower = name := by
  induction text generalizing name with
  | nil => cases name <;> simp [upper]
  | cons c rest ih =>
    cases name with
    | nil => simp [upper, upperChar_ne_nil]
    | cons letter name =>
      obtain ⟨small, smalls⟩ := List.forall_mem_cons.mp small
      obtain ⟨own, owns⟩ := List.forall_mem_cons.mp own
      have parts : upper (c :: rest) = upperChar c ++ upper rest := List.flatMap_cons
      rw [parts, List.map_cons, List.map_cons, List.cons.injEq, ← ih smalls owns]
      -- Beyond ASCII neither side holds: the capital is another, and lower case stays out of range.
      by_cases ascii : c.toNat < 128
      · rw [upperChar, if_pos ascii, List.singleton_append, List.cons.injEq, toUpper_eq_iff small]
      · refine iff_of_false (fun same => ?_) (fun same => ?_)
        · apply own c (Nat.le_of_not_lt ascii)
          rw [← List.head?_append_of_ne_nil _ (upperChar_ne_nil c), same, List.head?_cons]
        · have range := toNat_of_isLower small
          rw [← same.1, toNat_toLower] at range
          split at range <;> omega

theorem toNat_ofNat_cases (n : Nat) : (Char.ofNat n).toNat = n ∨ (Char.ofNat n).toNat = 0 := by
  by_cases valid : n.isValidChar
  · left
    rw [Char.ofNat, dif_pos valid]
    rfl
  · right
    rw [Char.ofNat, dif_neg valid]
    rfl

theorem head?_upperChar_ne {letter : Char} (named : letter ∈ "lcpu".toList) {c : Char} (beyond : 128 ≤ c.toNat) :
    (upperChar c).head? ≠ some letter.toUpper := by
  have expanded : ∀ entry ∈ upperExpansions.toList,
      ((entry.2.map Char.ofNat).head?.all fun first => first.toNat ∉ [76, 67, 80, 85]) = true := by
    decide +kernel
  -- Two characters alone have an upper case within ASCII.
  have moved : ∀ run ∈ upperRuns.toList,
      run.image run.first ∉ [76, 67, 80, 85] ∧ (128 ≤ run.image run.first ∨ run.first = run.last) := by
    decide +kernel
  have codes : ("lcpu".toList.all fun letter => letter.toUpper.toNat ∈ [76, 67, 80, 85]) = true := by decide
  have code := of_decide_eq_true (List.all_eq_true.mp codes letter named)
  rw [upperChar, if_neg (by omega)]
  split
  · next entry found =>
    intro first
    have other := expanded entry (Array.mem_of_find?_eq_some found).val
    rw [first] at other
    exact of_decide_eq_true other code
  · intro same
    rw [← Option.some.inj same] at code
    unfold mapped at code
    split at code
    · next run found =>
      obtain ⟨others, high⟩ := moved run (Array.mem_of_find?_eq_some found).val
      have covered := Array.find?_some found
      simp only [CaseRun.covers, Bool.and_eq_true, decide_eq_true_eq] at covered
      simp only [List.mem_cons, List.not_mem_nil, or_false, CaseRun.image] at code others high
      rcases toNat_ofNat_cases ((c.toNat + run.offset).toNat) with shown | shown <;> omega
    · simp only [List.mem_cons, List.not_mem_nil, or_false] at code
      omega

theorem upper_eq_lcpu_iff {text : List Char} : upper text = "LCPU".toList ↔ text.map Char.toLower = "lcpu".toList :=
  upper_eq_iff (List.all_eq_true.mp rfl) (fun _ named _ beyond => head?_upperChar_ne named beyond) text

end Text

namespace RawText

open Text

theorem mapRunsFrom_lower_map (read : List Char) (text : RawText) :
    mapRunsFrom lower (read.map Char.toLower) (text.map CodePoint.toLower) = mapRunsFrom lower read text := by
  have alike (read : List Char) : lower (read.map Char.toLower).reverse = lower read.reverse := by
    rw [← List.map_reverse]
    exact lowerAfter_map_toLower [] read.reverse
  induction text generalizing read with
  | nil => exact congrArg ofChars (alike read)
  | cons point rest ih =>
    cases point with
    | char c => exact ih (c :: read)
    | surrogate index =>
      exact congrArg₂ (· ++ .surrogate index :: ·) (congrArg ofChars (alike read)) (ih [])

theorem mapRuns_lower_congr {first second : RawText} (same : first.SameLetters second) :
    mapRuns lower first = mapRuns lower second := by
  have reduced (text : RawText) : mapRuns lower (text.map CodePoint.toLower) = mapRuns lower text :=
    mapRunsFrom_lower_map [] text
  rw [← reduced first, ← reduced second, same]

/-- A text without the replacement character is seen only where it stands. -/
theorem chars_eq_iff {text : List Char} (plain : Char.ofNat 0xFFFD ∉ text) {raw : RawText} :
    chars raw = text ↔ raw = ofChars text := by
  induction raw generalizing text with
  | nil => cases text <;> simp [chars, ofChars]
  | cons point rest ih =>
    cases text with
    | nil => simp [chars, ofChars]
    | cons c text =>
      obtain ⟨other, plain⟩ := not_or.mp (plain ∘ List.mem_cons.mpr)
      have here : point.shown = c ↔ point = .char c := by
        cases point with
        | char d => simp [CodePoint.shown]
        | surrogate index => simpa [CodePoint.shown] using other
      have later : rest.map CodePoint.shown = text ↔ rest = text.map .char := ih plain
      rw [chars, ofChars, List.map_cons, List.map_cons, List.cons.injEq, List.cons.injEq, here, later]

theorem upper_chars_eq_iff {raw : RawText} :
    upper raw.chars = "LCPU".toList ↔ raw.SameLetters (.ofString "LCPU") := by
  have seen : raw.chars.map Char.toLower = chars (raw.map CodePoint.toLower) := by
    rw [chars, chars, List.map_map, List.map_map]
    refine List.map_congr_left fun point _ => ?_
    cases point with
    | char c => rfl
    | surrogate index => exact (by decide : (Char.ofNat 0xFFFD).toLower = Char.ofNat 0xFFFD)
  rw [upper_eq_lcpu_iff, seen, chars_eq_iff (by decide)]
  exact Iff.rfl

end RawText

end HarvardBench
