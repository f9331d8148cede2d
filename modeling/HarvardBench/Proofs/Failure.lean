import HarvardBench.Proofs.Success

/-! Where computations that can fail do so.

What works off a list fails at the first entry that fails, with the failure of that entry. The
entries before it succeed, and those behind it are not looked at.
-/

set_option autoImplicit false

namespace HarvardBench

variable {α β ε : Type}

theorem bind_eq_error_iff {first : Except ε α} {next : α → Except ε β} {failure : ε} :
    (first >>= next) = .error failure ↔
      first = .error failure ∨ ∃ value, first = .ok value ∧ next value = .error failure := by
  cases first <;> simp [bind, Except.bind]

theorem map_eq_error_iff {outcome : Except ε α} {f : α → β} {failure : ε} :
    outcome.map f = .error failure ↔ outcome = .error failure := by
  cases outcome <;> simp [Except.map]

theorem not_exists_error_ok {value : α} : ¬∃ failure, (.ok value : Except ε α) = .error failure := by
  simp

theorem exists_error_map_iff {outcome : Except ε α} {f : α → β} :
    (∃ failure, outcome.map f = .error failure) ↔ ∃ failure, outcome = .error failure := by
  simp only [map_eq_error_iff]

theorem exists_error_mapError_iff {ζ : Type} {outcome : Except ε α} {f : ε → ζ} :
    (∃ failure, outcome.mapError f = .error failure) ↔ ∃ failure, outcome = .error failure := by
  cases outcome <;> simp [Except.mapError]

theorem exists_error_both_iff {γ : Type} {first : Except ε α} {second : Except ε β} {made : α → β → γ} :
    (∃ failure, (do let left ← first; let right ← second; return made left right) = .error failure) ↔
      (∃ failure, first = .error failure) ∨ ∃ failure, second = .error failure := by
  cases first <;> cases second <;> simp [bind, Except.bind, pure, Except.pure]

theorem exists_split_cons_iff {head : α} {tail : List α} {holds : List α → α → List α → Prop} :
    (∃ above entry below, head :: tail = above ++ entry :: below ∧ holds above entry below) ↔
      holds [] head tail ∨
        ∃ above entry below, tail = above ++ entry :: below ∧ holds (head :: above) entry below := by
  constructor
  · rintro ⟨above, entry, below, split, found⟩
    cases above with
    | nil =>
      obtain ⟨rfl, rfl⟩ := List.cons.inj split
      exact .inl found
    | cons first above =>
      obtain ⟨rfl, rfl⟩ := List.cons.inj split
      exact .inr ⟨above, entry, below, rfl, found⟩
  · rintro (here | ⟨above, entry, below, rfl, found⟩)
    · exact ⟨[], head, tail, rfl, here⟩
    · exact ⟨head :: above, entry, below, rfl, found⟩

/-- Working off a list fails as its first entry that fails. -/
theorem mapM_eq_error_iff {f : α → Except ε β} {entries : List α} {failure : ε} :
    entries.mapM f = .error failure ↔
      ∃ above entry below, entries = above ++ entry :: below ∧
        (∀ earlier ∈ above, ∃ result, f earlier = .ok result) ∧ f entry = .error failure := by
  induction entries with
  | nil => simp [pure, Except.pure]
  | cons head tail ih =>
    have later : (∃ result, f head = .ok result ∧
        (tail.mapM f >>= fun results => pure (result :: results)) = .error failure) ↔
        (∃ result, f head = .ok result) ∧ tail.mapM f = .error failure := by
      simp [bind_eq_error_iff, pure, Except.pure]
    rw [List.mapM_cons, bind_eq_error_iff, exists_split_cons_iff, later, ih]
    simp only [List.not_mem_nil, false_implies, implies_true, true_and, List.forall_mem_cons]
    refine or_congr_right ⟨?_, ?_⟩
    · rintro ⟨here, above, entry, below, split, earlier, fails⟩
      exact ⟨above, entry, below, split, ⟨here, earlier⟩, fails⟩
    · rintro ⟨above, entry, below, split, ⟨here, earlier⟩, fails⟩
      exact ⟨here, above, entry, below, split, earlier, fails⟩

/-! ### The failure alone -/

def failure? : Except ε α → Option ε
  | .ok _ => none
  | .error failure => some failure

/-- Two steps fail as the first or else as the second, if it does not depend on what the first has
to give how the second fails. -/
theorem failure?_bind {first : Except ε α} {next : α → Except ε β} {here later : Option ε}
    (fails : failure? first = here) (follows : ∀ value, first = .ok value → failure? (next value) = later) :
    failure? (first >>= next) = here.or later := by
  subst fails
  cases first with
  | error failure => rfl
  | ok value => exact follows value rfl

theorem failure?_bind_pure {first : Except ε α} {result : α → β} :
    failure? (first >>= fun value => pure (result value)) = failure? first := by
  cases first <;> rfl

theorem findSome?_cons_eq_or {f : α → Option β} {head : α} {tail : List α} :
    (head :: tail).findSome? f = (f head).or (tail.findSome? f) := by
  rw [List.findSome?_cons]
  cases f head <;> rfl

end HarvardBench
