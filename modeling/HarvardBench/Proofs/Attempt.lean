/-! Attempts: procedures that can fail half-way.

An attempt that fails keeps what it had changed by then. One that makes all of its checks
before its first change is all or nothing: it either makes every change or leaves the state
as it was. The laws here carry that along a procedure.
-/

set_option autoImplicit false

namespace HarvardBench

abbrev Attempt (σ ε α : Type) := ExceptT ε (StateM σ) α

namespace Attempt

variable {σ τ ε ζ α β : Type}

/-- The attempt that is all or nothing, with the outcome that each state gives. -/
def allOrNothing (outcome : σ → Except ε (α × σ)) : Attempt σ ε α := fun state =>
  match outcome state with
  | .ok (value, next) => (.ok value, next)
  | .error failure => (.error failure, state)

def check (outcome : Except ε α) : Attempt σ ε α := fun state => (outcome, state)

/-- An attempt on a part of a state, which is put back whether or not it succeeds. -/
def within (part : τ → σ) (put : τ → σ → τ) (attempt : Attempt σ ε α) : Attempt τ ε α := fun whole =>
  let (outcome, next) := attempt (part whole)
  (outcome, put whole next)

theorem bind_apply (attempt : Attempt σ ε α) (next : α → Attempt σ ε β) (state : σ) :
    (attempt >>= next) state =
      match attempt state with
      | (.ok value, after) => next value after
      | (.error failure, after) => (.error failure, after) := by
  change (match attempt state with | (outcome, after) => ExceptT.bindCont next outcome after) = _
  rcases attempt state with ⟨outcome, after⟩
  cases outcome <;> rfl

theorem get_bind_apply (next : σ → Attempt σ ε β) (state : σ) :
    (get >>= next : Attempt σ ε β) state = next state state := rfl

theorem check_bind_allOrNothing (outcome : Except ε α) (next : α → σ → Except ε (β × σ)) :
    (check outcome >>= fun value => allOrNothing (next value) : Attempt σ ε β) =
      allOrNothing fun state => outcome >>= fun value => next value state := by
  funext state
  cases outcome <;> rfl

theorem allOrNothing_bind_modify (outcome : σ → Except ε (α × σ)) (change : α → σ → σ) :
    (allOrNothing outcome >>= fun made => modify (change made) : Attempt σ ε PUnit) =
      allOrNothing fun state => (outcome state).map fun (made, next) => (⟨⟩, change made next) := by
  funext state
  rw [bind_apply]
  dsimp only [allOrNothing]
  cases outcome state <;> rfl

theorem allOrNothing_bind_pure (outcome : σ → Except ε (α × σ)) (result : α → β) :
    (allOrNothing outcome >>= fun made => pure (result made) : Attempt σ ε β) =
      allOrNothing fun state => (outcome state).map fun (made, next) => (result made, next) := by
  funext state
  rw [bind_apply]
  dsimp only [allOrNothing]
  cases outcome state <;> rfl

theorem within_allOrNothing {part : τ → σ} {put : τ → σ → τ}
    (kept : ∀ whole, put whole (part whole) = whole) (outcome : σ → Except ε (α × σ)) :
    within part put (allOrNothing outcome) =
      allOrNothing fun whole =>
        (outcome (part whole)).map fun (value, next) => (value, put whole next) := by
  funext whole
  dsimp only [within, allOrNothing]
  cases outcome (part whole) with
  | error failure => exact congrArg (Prod.mk _) (kept whole)
  | ok made => rfl

theorem adapt_allOrNothing (f : ε → ζ) (outcome : σ → Except ε (α × σ)) :
    ((allOrNothing outcome).adapt f : Attempt σ ζ α) =
      allOrNothing fun state => (outcome state).mapError f := by
  funext state
  change (match allOrNothing outcome state with | (result, after) => (result.mapError f, after)) = _
  dsimp only [allOrNothing]
  cases outcome state <;> rfl

theorem fst_allOrNothing (outcome : σ → Except ε (α × σ)) (state : σ) :
    (allOrNothing outcome state).1 = (outcome state).map Prod.fst := by
  unfold allOrNothing
  cases outcome state <;> rfl

theorem snd_allOrNothing_of_error {outcome : σ → Except ε (α × σ)} {state : σ} {failure : ε}
    (failed : (allOrNothing outcome state).1 = .error failure) : (allOrNothing outcome state).2 = state := by
  unfold allOrNothing at failed ⊢
  cases made : outcome state with
  | ok result =>
    rw [made] at failed
    cases failed
  | error _ => rfl

theorem adapt_bind_pure {γ : Type} (f : ε → ζ) (result : α → β) (outcome : σ → Except ε γ) (made : σ → γ → α × σ) :
    ((allOrNothing fun state => (outcome state).map (made state)).adapt f >>= fun value => pure (result value) :
        Attempt σ ζ β) =
      allOrNothing fun state => ((outcome state).mapError f).map fun value =>
        (result (made state value).1, (made state value).2) := by
  rw [adapt_allOrNothing, allOrNothing_bind_pure]
  congr 1
  funext state
  cases outcome state <;> rfl

def runEach : List (Attempt σ ε α) → σ → List (Except ε α) × σ
  | [], state => ([], state)
  | attempt :: rest, state =>
    let (outcome, next) := attempt state
    let (outcomes, last) := runEach rest next
    (outcome :: outcomes, last)

end Attempt

end HarvardBench
