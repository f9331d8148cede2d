import HarvardBench.Text.Blank
import Mathlib.Data.List.Basic
import Mathlib.Data.List.TakeWhile

/-! Texts without blanks around them, their words, and the lines of a text.

Trimming leaves a trimmed text, and changes no text that is trimmed already. A
text that is joined from lines splits into the same lines again.
-/

set_option autoImplicit false

namespace HarvardBench.Text

structure Trimmed (text : List Char) : Prop where
  front : ∀ c ∈ text.head?, isBlank c = false
  back : ∀ c ∈ text.getLast?, isBlank c = false

theorem bne_of_not_mem {mark : Char} {text : List Char} (absent : mark ∉ text) :
    ∀ c ∈ text, (c != mark) = true := by
  intro c member
  rw [bne_iff_ne]
  rintro rfl
  exact absent member

section Pieces

variable {α : Type} {p : α → Bool}

theorem takeWhile_append_of_stop {front rest : List α} (inside : ∀ c ∈ front, p c = true)
    (stop : ∀ c ∈ rest.head?, p c = false) : (front ++ rest).takeWhile p = front := by
  rw [List.takeWhile_append_of_pos inside]
  cases rest with
  | nil => simp
  | cons c rest => simp [stop c (by simp)]

theorem dropWhile_append_of_stop {front rest : List α} (inside : ∀ c ∈ front, p c = true)
    (stop : ∀ c ∈ rest.head?, p c = false) : (front ++ rest).dropWhile p = rest := by
  rw [List.dropWhile_append_of_pos inside]
  cases rest with
  | nil => simp
  | cons c rest => simp [stop c (by simp)]

theorem takeWhile_append_cons_of_stop {front back : List α} {c : α} (stop : p c = false) :
    (front ++ c :: back).takeWhile p = front.takeWhile p := by
  induction front with
  | nil => simp [stop]
  | cons d front ih => by_cases inside : p d = true <;> simp [inside, ih]

theorem dropWhile_append_cons_of_stop {front back : List α} {c : α} (stop : p c = false) :
    (front ++ c :: back).dropWhile p = front.dropWhile p ++ c :: back := by
  induction front with
  | nil => simp [stop]
  | cons d front ih => by_cases inside : p d = true <;> simp [inside, ih]

theorem dropWhile_of_stop {text : List α} (stop : ∀ c ∈ text.head?, p c = false) :
    text.dropWhile p = text :=
  @dropWhile_append_of_stop α p [] text (by simp) stop

theorem stop_dropWhile (text : List α) : ∀ c ∈ (text.dropWhile p).head?, p c = false := by
  intro c first
  have := List.head?_dropWhile_not p text
  rw [Option.mem_def.mp first] at this
  simpa using this

theorem getLast?_dropWhile {text : List α} {c : α} (last : c ∈ (text.dropWhile p).getLast?) :
    c ∈ text.getLast? := by
  have kept : text.dropWhile p ≠ [] := by
    rintro none
    simp [none] at last
  rw [← List.takeWhile_append_dropWhile (p := p) (l := text), List.getLast?_append]
  simp only [Option.mem_def] at last ⊢
  simp [last]

theorem getLast?_cons_of_mem {head c : α} {text : List α} (last : c ∈ text.getLast?) :
    c ∈ (head :: text).getLast? := by
  cases text with
  | nil => simp at last
  | cons d text => simpa using last

end Pieces

theorem trimLeft_of_front {text : List Char} (front : ∀ c ∈ text.head?, isBlank c = false) :
    trimLeft text = text := dropWhile_of_stop front

theorem trimRight_of_back {text : List Char} (back : ∀ c ∈ text.getLast?, isBlank c = false) :
    trimRight text = text := by
  unfold trimRight
  rw [dropWhile_of_stop (by simpa [List.head?_reverse] using back), List.reverse_reverse]

theorem trim_of_trimmed {text : List Char} (trimmed : Trimmed text) : trim text = text := by
  unfold trim
  rw [trimLeft_of_front trimmed.front, trimRight_of_back trimmed.back]

theorem front_trimLeft (text : List Char) : ∀ c ∈ (trimLeft text).head?, isBlank c = false :=
  stop_dropWhile text

theorem back_trimLeft {text : List Char} (back : ∀ c ∈ text.getLast?, isBlank c = false) :
    ∀ c ∈ (trimLeft text).getLast?, isBlank c = false :=
  fun c last => back c (getLast?_dropWhile last)

theorem trimmed_trim (text : List Char) : Trimmed (trim text) where
  back := by
    intro c last
    apply front_trimLeft (trimLeft text).reverse c
    simpa [trim, trimRight, trimLeft, List.getLast?_reverse] using last
  front := by
    intro c first
    apply front_trimLeft text c
    -- Trimming on the right works on the reversed text, which keeps its last character.
    have reversed : c ∈ ((trimLeft text).reverse.dropWhile isBlank).getLast? := by
      simpa [trim, trimRight, List.head?_reverse] using first
    simpa [List.getLast?_reverse] using getLast?_dropWhile reversed

@[simp] theorem trim_nil : trim [] = [] := rfl

theorem trimLeft_subset (text : List Char) : trimLeft text ⊆ text := (List.dropWhile_sublist isBlank).subset

theorem trim_subset (text : List Char) : trim text ⊆ text := by
  intro c member
  have within := trimLeft_subset (trimLeft text).reverse (List.mem_reverse.mp member)
  exact trimLeft_subset text (List.mem_reverse.mp within)

/-! ## The first word -/

theorem splitWord_append {word rest : List Char} {gap : Char}
    (solid : ∀ c ∈ word, isBlank c = false) (blank : isBlank gap = true) (filled : word ≠ []) :
    splitWord (word ++ gap :: rest) = (word, trimLeft rest) := by
  have front : ∀ c ∈ (word ++ gap :: rest).head?, isBlank c = false := by
    intro c first
    cases word with
    | nil => exact absurd rfl filled
    | cons head tail =>
      simp only [List.cons_append, List.head?_cons, Option.mem_def, Option.some.injEq] at first
      exact first ▸ solid head (by simp)
  have inside : ∀ c ∈ word, (!isBlank c) = true := by
    intro c member
    simp [solid c member]
  have stop : ∀ c ∈ (gap :: rest).head?, (!isBlank c) = false := by
    simp [blank]
  unfold splitWord
  simp only [trimLeft_of_front front, takeWhile_append_of_stop inside stop,
    dropWhile_append_of_stop inside stop]
  simp [trimLeft, blank]

theorem splitWord_word {word : List Char} (solid : ∀ c ∈ word, isBlank c = false) :
    splitWord word = (word, []) := by
  have inside : ∀ c ∈ word, (!isBlank c) = true := by
    intro c member
    simp [solid c member]
  have front : ∀ c ∈ word.head?, isBlank c = false :=
    fun c first => solid c (List.mem_of_mem_head? first)
  unfold splitWord
  simp only [trimLeft_of_front front, List.takeWhile_eq_self_iff.mpr inside,
    List.dropWhile_eq_nil_iff.mpr inside]
  rfl

theorem solid_splitWord (text : List Char) : ∀ c ∈ (splitWord text).1, isBlank c = false := by
  intro c member
  have := List.mem_takeWhile_imp member
  simpa using this

theorem splitWord_subset (text : List Char) : (splitWord text).1 ⊆ text ∧ (splitWord text).2 ⊆ text := by
  have whole := trimLeft_subset text
  refine ⟨fun c member => whole ((List.takeWhile_sublist _).subset member), fun c member => whole ?_⟩
  exact (List.dropWhile_sublist _).subset (trimLeft_subset _ member)

theorem trimmed_splitWord {text : List Char} (trimmed : Trimmed text) : Trimmed (splitWord text).2 where
  front := front_trimLeft _
  back := by
    apply back_trimLeft
    intro c last
    rw [trimLeft_of_front trimmed.front] at last
    exact trimmed.back c (getLast?_dropWhile last)

theorem splitWord_ne_nil {text : List Char} (trimmed : Trimmed text) (filled : text ≠ []) :
    (splitWord text).1 ≠ [] := by
  unfold splitWord
  rw [trimLeft_of_front trimmed.front]
  cases text with
  | nil => exact absurd rfl filled
  | cons c rest => simp [trimmed.front c (by simp)]

theorem splitWord_ne_nil_of_more {text : List Char} (more : (splitWord text).2 ≠ []) : (splitWord text).1 ≠ [] := by
  have front := front_trimLeft text
  unfold splitWord at more ⊢
  cases starts : trimLeft text with
  | nil =>
    rw [starts] at more
    exact absurd rfl more
  | cons c rest =>
    have solid := front c (by rw [starts]; rfl)
    simp [solid]

theorem trimmed_joined {word rest : List Char} {gap : Char} (solid : ∀ c ∈ word, isBlank c = false)
    (filled : word ≠ []) (trimmed : Trimmed rest) (more : rest ≠ []) : Trimmed (word ++ gap :: rest) where
  front := by
    intro c first
    rw [List.head?_append_of_ne_nil word filled] at first
    exact solid c (List.mem_of_mem_head? first)
  back := by
    intro c last
    rw [List.getLast?_append_of_ne_nil word (by simp)] at last
    obtain ⟨d, tail, rfl⟩ := List.exists_cons_of_ne_nil more
    exact trimmed.back c (by simpa using last)

theorem splitWord_joined {word rest : List Char} (solid : ∀ c ∈ word, isBlank c = false)
    (filled : word ≠ []) (trimmed : Trimmed rest) (more : rest ≠ []) :
    splitWord (trim (word ++ ' ' :: rest)) = (word, rest) := by
  rw [trim_of_trimmed (trimmed_joined solid filled trimmed more),
    splitWord_append solid (by decide) filled, trimLeft_of_front trimmed.front]

/-! ## Lines -/

theorem splitAtEach_of_not_mem {separator : Char} {text : List Char} (absent : separator ∉ text) :
    splitAtEach separator text = [text] := by
  induction text with
  | nil => rfl
  | cons c rest ih =>
    simp only [List.mem_cons, not_or] at absent
    simp [splitAtEach, ih absent.2, Ne.symm absent.1]

theorem splitAtEach_append (separator : Char) (front rest : List Char) :
    splitAtEach separator (front ++ separator :: rest) =
      splitAtEach separator front ++ splitAtEach separator rest := by
  induction front with
  | nil =>
    obtain ⟨part, parts, same⟩ := List.exists_cons_of_ne_nil (splitAtEach_ne_nil separator rest)
    simp [splitAtEach, same]
  | cons c front ih =>
    obtain ⟨part, parts, same⟩ := List.exists_cons_of_ne_nil (splitAtEach_ne_nil separator front)
    rw [List.cons_append, splitAtEach, splitAtEach, ih, same, List.cons_append]
    by_cases separates : c = separator <;> simp [separates]

theorem not_mem_of_mem_splitAtEach {separator : Char} {text part : List Char}
    (member : part ∈ splitAtEach separator text) : separator ∉ part := by
  induction text generalizing part with
  | nil =>
    obtain rfl := List.mem_singleton.mp member
    exact List.not_mem_nil
  | cons c rest ih =>
    obtain ⟨first, parts, same⟩ := List.exists_cons_of_ne_nil (splitAtEach_ne_nil separator rest)
    rw [same] at ih
    rw [splitAtEach, same] at member
    dsimp only at member
    split at member
    · rcases List.mem_cons.mp member with rfl | later
      · exact List.not_mem_nil
      · exact ih later
    · next other =>
      rcases List.mem_cons.mp member with rfl | later
      · exact List.not_mem_cons_of_ne_of_not_mem (Ne.symm other) (ih List.mem_cons_self)
      · exact ih (List.mem_cons_of_mem _ later)

/-- Joining lines that hold no line feed is undone by splitting. -/
theorem lines_intercalate {first : List Char} {more : List (List Char)}
    (absent : ∀ line ∈ first :: more, '\n' ∉ line) :
    lines (List.intercalate ['\n'] (first :: more)) = first :: more := by
  induction more generalizing first with
  | nil =>
    rw [List.intercalate_singleton]
    exact splitAtEach_of_not_mem (absent first (by simp))
  | cons second more ih =>
    -- There is no separator within the first line, so it is a part by itself.
    have later : ∀ line ∈ second :: more, '\n' ∉ line :=
      fun line member => absent line (List.mem_cons_of_mem first member)
    have joined : List.intercalate ['\n'] (first :: second :: more) =
        first ++ '\n' :: List.intercalate ['\n'] (second :: more) := by
      simp [List.intercalate_cons_cons]
    rw [joined, lines, splitAtEach_append, splitAtEach_of_not_mem (absent first (by simp))]
    exact congrArg (first :: ·) (ih later)

theorem mem_of_mem_intercalate {α : Type} {separator : List α} {parts : List (List α)} {c : α}
    (member : c ∈ separator.intercalate parts) : c ∈ separator ∨ ∃ part ∈ parts, c ∈ part := by
  induction parts with
  | nil => exact absurd member List.not_mem_nil
  | cons first rest ih =>
    cases rest with
    | nil =>
      rw [List.intercalate_singleton] at member
      exact .inr ⟨first, List.mem_cons_self, member⟩
    | cons second rest =>
      rw [List.intercalate_cons_cons, List.append_assoc, List.mem_append, List.mem_append] at member
      rcases member with here | between | later
      · exact .inr ⟨first, List.mem_cons_self, here⟩
      · exact .inl between
      · exact (ih later).imp_right fun ⟨part, own, inside⟩ => ⟨part, List.mem_cons_of_mem _ own, inside⟩

end HarvardBench.Text
