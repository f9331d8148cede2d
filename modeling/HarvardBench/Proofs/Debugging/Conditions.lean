import HarvardBench.Proofs.Debugging.Run
import Mathlib.Data.Finset.Dedup
import Mathlib.Data.Finset.Erase
import Mathlib.Data.Finset.Insert
import Mathlib.Data.List.Perm.Basic

/-! The conditions of a debugger as a set.

A list of conditions stands for a set as long as no condition is listed twice. An update is the
only edit that can list one twice, since it does not look for the condition that it puts in; a
condition that is listed twice outlives its removal.
-/

set_option autoImplicit false

namespace HarvardBench

section Replacing

variable {α : Type} [DecidableEq α] {old new : α} {list : List α}

theorem replaceFirst_of_not_mem (absent : old ∉ list) : replaceFirst old new list = list := by
  induction list with
  | nil => rfl
  | cons head rest ih =>
    obtain ⟨other, later⟩ := not_or.mp (fun member => absent (List.mem_cons.mpr member))
    rw [replaceFirst, if_neg (Ne.symm other), ih later]

theorem replaceFirst_perm (present : old ∈ list) : (replaceFirst old new list).Perm (new :: list.erase old) := by
  induction list with
  | nil => cases present
  | cons head rest ih =>
    by_cases same : head = old
    · rw [replaceFirst, if_pos same, same, List.erase_cons_head]
    · have later := ih ((List.mem_cons.mp present).resolve_left (Ne.symm same))
      rw [replaceFirst, if_neg same, List.erase_cons_tail (by simpa using same)]
      exact (later.cons head).trans (.swap new head _)

end Replacing

namespace Breakpoint

inductive Edit where
  | add (breakpoint : Breakpoint)
  | update (old new : Breakpoint)
  | remove (breakpoint : Breakpoint)
  deriving DecidableEq, Repr

namespace Edit

def applied : Edit → Finset Breakpoint → Finset Breakpoint
  | add breakpoint, set => insert breakpoint set
  | update old new, set => if old ∈ set then insert new (set.erase old) else set
  | remove breakpoint, set => set.erase breakpoint

/-- The set that edits make, beginning with no condition. -/
def members (edits : List Edit) : Finset Breakpoint := edits.foldl (fun set edit => edit.applied set) ∅

/-- An update puts in a condition that is listed elsewhere. -/
def Doubles (listed : List Breakpoint) : Edit → Prop
  | update old new => old ∈ listed ∧ new ∈ listed ∧ new ≠ old
  | add _ | remove _ => False

instance (listed : List Breakpoint) : DecidablePred (Doubles listed)
  | add _ | remove _ => inferInstanceAs (Decidable False)
  | update old new => inferInstanceAs (Decidable (old ∈ listed ∧ new ∈ listed ∧ new ≠ old))

end Edit

end Breakpoint

namespace Debugger

open Breakpoint (Edit)

def edit (debugger : Debugger) : Edit → Debugger
  | .add breakpoint => debugger.addBreakpoint breakpoint
  | .update old new => debugger.updateBreakpoint old new
  | .remove breakpoint => debugger.removeBreakpoint breakpoint

def edited (debugger : Debugger) (edits : List Edit) : Debugger := edits.foldl edit debugger

/-- No edit puts in a condition that is listed elsewhere at its time. -/
def Apart (debugger : Debugger) : List Edit → Prop
  | [] => True
  | edit :: rest => ¬ edit.Doubles debugger.breakpoints ∧ (debugger.edit edit).Apart rest

instance decidableApart (debugger : Debugger) : (edits : List Edit) → Decidable (debugger.Apart edits)
  | [] => inferInstanceAs (Decidable True)
  | edit :: rest =>
    have := decidableApart (debugger.edit edit) rest
    inferInstanceAs (Decidable (¬ edit.Doubles debugger.breakpoints ∧ (debugger.edit edit).Apart rest))

structure Lists (debugger : Debugger) (set : Finset Breakpoint) : Prop where
  distinct : debugger.breakpoints.Nodup
  listed : ∀ breakpoint, breakpoint ∈ debugger.breakpoints ↔ breakpoint ∈ set

section Edits

variable {debugger : Debugger} {set : Finset Breakpoint}

theorem nodup_edit_iff (distinct : debugger.breakpoints.Nodup) (edit : Edit) :
    (debugger.edit edit).breakpoints.Nodup ↔ ¬ edit.Doubles debugger.breakpoints := by
  cases edit with
  | add breakpoint =>
    refine iff_of_true (show (debugger.addBreakpoint breakpoint).breakpoints.Nodup from ?_) not_false
    unfold addBreakpoint
    split
    · exact distinct
    · next fresh =>
      rw [← List.concat_eq_append]
      exact distinct.concat fresh
  | remove breakpoint => exact iff_of_true (distinct.erase breakpoint) not_false
  | update old new =>
    show (replaceFirst old new debugger.breakpoints).Nodup ↔ ¬ (_ ∧ _ ∧ _)
    by_cases present : old ∈ debugger.breakpoints
    · rw [(replaceFirst_perm present).nodup_iff, List.nodup_cons, distinct.mem_erase_iff]
      simp only [distinct.erase old, present, true_and, and_comm]
    · rw [replaceFirst_of_not_mem present]
      exact iff_of_true distinct fun doubled => present doubled.1

/-- Edits that keep the conditions apart do the same to the list as to its set. -/
theorem Lists.edit (lists : debugger.Lists set) {edit : Edit} (single : ¬ edit.Doubles debugger.breakpoints) :
    (debugger.edit edit).Lists (edit.applied set) := by
  obtain ⟨distinct, listed⟩ := lists
  refine ⟨(nodup_edit_iff distinct edit).mpr single, fun other => ?_⟩
  cases edit with
  | add breakpoint =>
    show other ∈ (debugger.addBreakpoint breakpoint).breakpoints ↔ other ∈ insert breakpoint set
    unfold addBreakpoint
    split
    · next known => rw [Finset.insert_eq_of_mem ((listed breakpoint).mp known), listed]
    · rw [List.mem_append, List.mem_singleton, Finset.mem_insert, listed, or_comm]
  | remove breakpoint =>
    show other ∈ debugger.breakpoints.erase breakpoint ↔ other ∈ set.erase breakpoint
    rw [distinct.mem_erase_iff, Finset.mem_erase, listed]
  | update old new =>
    show other ∈ replaceFirst old new debugger.breakpoints ↔
      other ∈ if old ∈ set then insert new (set.erase old) else set
    by_cases present : old ∈ debugger.breakpoints
    · rw [(replaceFirst_perm present).mem_iff, if_pos ((listed old).mp present), List.mem_cons,
        distinct.mem_erase_iff, Finset.mem_insert, Finset.mem_erase, listed]
    · rw [replaceFirst_of_not_mem present, if_neg fun known => present ((listed old).mpr known), listed]

theorem nodup_edited_iff (distinct : debugger.breakpoints.Nodup) (edits : List Edit) :
    (∀ done, done <+: edits → (debugger.edited done).breakpoints.Nodup) ↔ debugger.Apart edits := by
  induction edits generalizing debugger with
  | nil => simpa [Apart, edited] using distinct
  | cons edit rest ih =>
    rw [Apart, ← nodup_edit_iff distinct]
    constructor
    · intro all
      have first := all [edit] ⟨rest, rfl⟩
      refine ⟨first, (ih first).mp fun done front => ?_⟩
      exact all (edit :: done) (List.cons_prefix_cons.mpr ⟨rfl, front⟩)
    · rintro ⟨first, later⟩ done front
      rcases List.prefix_cons_iff.mp front with rfl | ⟨more, rfl, within⟩
      · exact distinct
      · exact (ih first).mpr later more within

theorem Lists.edited (lists : debugger.Lists set) {edits : List Edit} (apart : debugger.Apart edits) :
    (debugger.edited edits).Lists (edits.foldl (fun set edit => edit.applied set) set) := by
  induction edits generalizing debugger set with
  | nil => exact lists
  | cons edit rest ih => exact ih (lists.edit apart.1) apart.2

theorem Apart.of_prefix {done edits : List Edit} (front : done <+: edits) (apart : debugger.Apart edits) :
    debugger.Apart done := by
  induction edits generalizing debugger done with
  | nil => exact List.prefix_nil.mp front ▸ trivial
  | cons edit rest ih =>
    rcases List.prefix_cons_iff.mp front with rfl | ⟨more, rfl, within⟩
    · trivial
    · exact ⟨apart.1, ih within apart.2⟩

end Edits

/-! ## Runs -/

def Finishes (debugger : Debugger) : Prop :=
  match debugger.step with
  | (.error _, _) => True
  | (.ok _, reached) => reached.machine.state.halted = true

def StoppedBy (debugger : Debugger) (breakpoint : Breakpoint) : Prop :=
  match debugger.step with
  | (.error _, _) => False
  | (.ok snapshot, reached) => breakpoint.enabled = true ∧
      (breakpoint.Meets debugger.machine.state snapshot ∨
        breakpoint.kind = .ipMatch ∧ breakpoint.value = some reached.machine.state.ip)

/-- A run is steps up to the first that finishes, spends the budget or is stopped by a condition of
a set. -/
structure RunsUnder (debugger : Debugger) (set : Finset Breakpoint) (budget : Int) : Prop where
  idle : budget ≤ 0 ∨ debugger.machine.state.halted = true → (debugger.run budget).2 = debugger
  ends : 0 < budget → debugger.machine.state.halted = false →
    ∃ last, IsLeast {index : Nat | (index : Int) + 1 = budget ∨ (next^[index] debugger).Finishes ∨
        ∃ breakpoint ∈ set, (next^[index] debugger).StoppedBy breakpoint} last ∧
      (debugger.run budget).2 = next^[last + 1] debugger

section Runs

variable {debugger : Debugger} {set : Finset Breakpoint}

theorem ends_iff_finishes :
    debugger.Ends ↔ debugger.Finishes ∨ ∃ breakpoint ∈ debugger.breakpoints, debugger.StoppedBy breakpoint := by
  unfold Ends Finishes StoppedBy
  cases debugger.step with
  | mk outcome reached => cases outcome <;> simp

theorem breakpoints_next (debugger : Debugger) : debugger.next.breakpoints = debugger.breakpoints := by
  unfold next step
  cases debugger.machine.step with
  | mk outcome machine =>
    cases outcome with
    | error fault => rfl
    | ok snapshot => exact breakpoints_remember _ _

theorem breakpoints_iterate (debugger : Debugger) (count : Nat) :
    (next^[count] debugger).breakpoints = debugger.breakpoints := by
  induction count with
  | zero => rfl
  | succ count ih => rw [Function.iterate_succ_apply', breakpoints_next, ih]

theorem Lists.runsUnder (lists : debugger.Lists set) (budget : Int) : debugger.RunsUnder set budget := by
  refine ⟨fun idle => congrArg Prod.snd (run_of_idle idle), fun positive running => ?_⟩
  obtain ⟨earlier, rfl⟩ : ∃ earlier : Nat, budget = (earlier + 1 : Nat) := ⟨(budget - 1).toNat, by omega⟩
  obtain ⟨last, least, ran⟩ := runFrom_eq 0 earlier running (.inl rfl)
  refine ⟨last, ?_, congrArg Prod.snd ran⟩
  -- The conditions are the same at every step of the run.
  have same (index : Nat) : (next^[index] debugger).Ends ↔ (next^[index] debugger).Finishes ∨
      ∃ breakpoint ∈ set, (next^[index] debugger).StoppedBy breakpoint := by
    simp only [ends_iff_finishes, breakpoints_iterate, lists.listed]
  simp only [same] at least
  convert least using 5
  omega

end Runs

/-- A debugger with a set of conditions: each is listed once, so that none is left after its
removal, and a run does not stop at it. -/
structure ActsAs (debugger : Debugger) (set : Finset Breakpoint) : Prop where
  lists : debugger.Lists set
  absent : ∀ breakpoint, breakpoint ∉ (debugger.removeBreakpoint breakpoint).breakpoints
  unstopped : ∀ breakpoint budget, (debugger.removeBreakpoint breakpoint).RunsUnder (set.erase breakpoint) budget

theorem Lists.actsAs {debugger : Debugger} {set : Finset Breakpoint} (lists : debugger.Lists set) :
    debugger.ActsAs set where
  lists := lists
  absent _ := lists.distinct.not_mem_erase
  unstopped breakpoint budget :=
    have removed : (debugger.removeBreakpoint breakpoint).Lists (set.erase breakpoint) :=
      @Lists.edit debugger set lists (.remove breakpoint) not_false
    removed.runsUnder budget

/-- From no conditions on, the conditions act as the set that the edits make all the way exactly if
no update puts in a condition that is listed elsewhere. -/
theorem edited_actsAs_iff {debugger : Debugger} (empty : debugger.breakpoints = []) (edits : List Edit) :
    (∀ done, done <+: edits → (debugger.edited done).ActsAs (Edit.members done)) ↔ debugger.Apart edits := by
  have none : debugger.Lists ∅ := ⟨by simp [empty], by simp [empty]⟩
  constructor
  · intro all
    exact (nodup_edited_iff none.distinct edits).mp fun done front => (all done front).lists.distinct
  · intro apart done front
    exact (none.edited (apart.of_prefix front)).actsAs

def circling : Debugger where
  machine := { bus := { ram := .zeroed 1, rom := .filled 1 [0x8000] }, state := .initial 1, depth := 1 }
  history := { limit := 1, origin := .initial 1 }
  previous := .initial 1

def atTwo : Breakpoint := { kind := .ipMatch, value := some 2 }

def atThree : Breakpoint := { kind := .ipMatch, value := some 3 }

theorem edited_actsAs_added_twice :
    circling.breakpoints = [] ∧
      ∀ done, done <+: [.add atTwo, .add atTwo, .update atTwo atThree, .add atTwo, .remove atThree] →
        (circling.edited done).ActsAs (Edit.members done) :=
  ⟨rfl, (edited_actsAs_iff rfl _).mpr (by decide)⟩

/-- Once an update has made two conditions equal, one of them is left when they are removed. -/
theorem not_edited_actsAs_updated :
    ¬ ∀ (debugger : Debugger) (edits : List Edit), debugger.breakpoints = [] →
      ∀ done, done <+: edits →
        (debugger.edited done).breakpoints.Nodup ∧
          ∀ breakpoint, breakpoint ∉ ((debugger.edited done).removeBreakpoint breakpoint).breakpoints := by
  intro all
  have gone := (all circling [.add atTwo, .add atThree, .update atTwo atThree] rfl _ (List.prefix_refl _)).2 atThree
  exact gone (by decide)

end Debugger

end HarvardBench
