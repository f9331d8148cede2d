import Mathlib.Data.List.Forall2

/-! When computations that can fail succeed. -/

set_option autoImplicit false

namespace HarvardBench

variable {α β ε : Type}

theorem bind_eq_ok_iff {first : Except ε α} {next : α → Except ε β} {result : β} :
    (first >>= next) = .ok result ↔ ∃ value, first = .ok value ∧ next value = .ok result := by
  cases first <;> simp [bind, Except.bind]

theorem mapM_eq_ok_iff {f : α → Except ε β} {entries : List α} {results : List β} :
    entries.mapM f = .ok results ↔ List.Forall₂ (fun entry result => f entry = .ok result) entries results := by
  induction entries generalizing results with
  | nil => simp [pure, Except.pure, eq_comm]
  | cons entry entries ih =>
    -- On both sides the first entry succeeds and the rest is worked off.
    rw [List.mapM_cons, bind_eq_ok_iff, List.forall₂_cons_left_iff]
    constructor
    · rintro ⟨first, here, later⟩
      obtain ⟨rest, worked, made⟩ := bind_eq_ok_iff.mp later
      exact ⟨first, rest, here, ih.mp worked, (Except.ok.inj made).symm⟩
    · rintro ⟨first, rest, here, later, rfl⟩
      exact ⟨first, here, bind_eq_ok_iff.mpr ⟨rest, ih.mpr later, rfl⟩⟩

theorem exists_of_mem_forall₂ {relates : α → β → Prop} {left : List α} {right : List β} {entry : α}
    (related : List.Forall₂ relates left right) (member : entry ∈ left) :
    ∃ other ∈ right, relates entry other := by
  induction related with
  | nil => simp at member
  | cons here _ ih =>
    rcases List.mem_cons.mp member with rfl | later
    · exact ⟨_, List.mem_cons_self, here⟩
    · obtain ⟨other, found, relates⟩ := ih later
      exact ⟨other, List.mem_cons_of_mem _ found, relates⟩

theorem getElem?_of_forall₂ {relates : α → β → Prop} {front back : List α} {right : List β} {entry : α}
    (related : List.Forall₂ relates (front ++ entry :: back) right) :
    ∃ other, right[front.length]? = some other ∧ relates entry other := by
  induction front generalizing right with
  | nil =>
    obtain ⟨other, _, here, _, rfl⟩ := List.forall₂_cons_left_iff.mp related
    exact ⟨other, rfl, here⟩
  | cons first front ih =>
    obtain ⟨_, rest, _, later, rfl⟩ := List.forall₂_cons_left_iff.mp related
    exact ih later

/-- Two related lists have related entries at the same positions, and end together. -/
theorem getElem?_cases_of_forall₂ {relates : α → β → Prop} {left : List α} {right : List β}
    (related : List.Forall₂ relates left right) (index : Nat) :
    (left[index]? = none ∧ right[index]? = none) ∨
      ∃ entry other, left[index]? = some entry ∧ right[index]? = some other ∧ relates entry other := by
  induction related generalizing index with
  | nil => exact .inl ⟨rfl, rfl⟩
  | cons here _ ih =>
    cases index with
    | zero => exact .inr ⟨_, _, rfl, rfl, here⟩
    | succ index => exact ih index

theorem forall₂_between {γ : Type} {relates : α → β → Prop} {front : α → γ → Prop} {back : γ → β → Prop}
    {left : List α} {right : List β} (related : List.Forall₂ relates left right)
    (between : ∀ entry ∈ left, ∀ other, relates entry other →
      ∃ middle, front entry middle ∧ back middle other) :
    ∃ middles, List.Forall₂ front left middles ∧ List.Forall₂ back middles right := by
  induction related with
  | nil => exact ⟨[], .nil, .nil⟩
  | cons here _ ih =>
    rw [List.forall_mem_cons] at between
    obtain ⟨middle, before, after⟩ := between.1 _ here
    obtain ⟨middles, befores, afters⟩ := ih between.2
    exact ⟨middle :: middles, .cons before befores, .cons after afters⟩

theorem map_eq_ok_iff {outcome : Except ε α} {f : α → β} {result : β} :
    outcome.map f = .ok result ↔ ∃ value, outcome = .ok value ∧ f value = result := by
  cases outcome <;> simp [Except.map]

theorem mapError_eq_ok_iff {ζ : Type} {outcome : Except ε α} {f : ε → ζ} {value : α} :
    outcome.mapError f = .ok value ↔ outcome = .ok value := by
  cases outcome <;> simp [Except.mapError]

end HarvardBench
