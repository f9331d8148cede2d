import HarvardBench.Debugging.Debugger
import HarvardBench.Proofs.Debugging.History
import HarvardBench.Proofs.Machine.WellFormed
import HarvardBench.Proofs.Success
import Mathlib.Logic.Function.Iterate

/-! Rewinding is exact.

A debugger is followed together with the path that it is on: each instruction that is
executed adds a situation to the path, and each that is taken back removes one. After
any commands, the history is linked to the path.
-/

set_option autoImplicit false

namespace HarvardBench

def Debugger.situation (debugger : Debugger) : Situation :=
  (debugger.machine.state, debugger.machine.bus.ram)

def Debugger.rewound (debugger : Debugger) : Debugger := debugger.back.2

namespace Debugger

theorem back_cases (debugger : Debugger) :
    (debugger.history.size = 0 ∧ debugger.back = (none, debugger)) ∨
    (∃ snapshot older, debugger.history.newestFirst = snapshot :: older ∧
      debugger.rewound.history.limit = debugger.history.limit ∧
        debugger.rewound.history.origin = debugger.history.origin ∧
          debugger.rewound.history.newestFirst = older ∧
            debugger.rewound.situation = (newestState debugger.history.origin older,
              debugger.machine.bus.ram.undo snapshot.accesses) ∧
              debugger.rewound.last = older.head?) := by
  unfold rewound back
  cases held : debugger.history.newestFirst with
  | nil =>
    refine .inl ⟨?_, ?_⟩
    · rw [← History.length_newestFirst, held, List.length_nil]
    · rw [History.pop?_of_nil held]
  | cons snapshot older =>
    obtain ⟨rest, popped, newest, origin, limit⟩ := History.pop?_of_cons held
    refine .inr ⟨snapshot, older, rfl, ?_⟩
    -- The state to go back to is that of the snapshot before, or the origin.
    have restored : rest.current = newestState debugger.history.origin older := by
      rw [History.current_eq_newestState, newest, origin]
    rw [popped]
    refine ⟨limit, origin, newest, ?_, ?_⟩
    · exact Prod.ext restored (Bus.ram_undo debugger.machine.bus snapshot.accesses)
    · exact (History.last?_eq_head? rest).trans (congrArg List.head? newest)

theorem size_rewound (debugger : Debugger) :
    debugger.rewound.history.size = debugger.history.size - 1 := by
  rcases debugger.back_cases with ⟨empty, unchanged⟩ | ⟨snapshot, older, held, _, _, newest, _⟩
  · rw [rewound, unchanged, empty]
  · rw [← History.length_newestFirst, ← History.length_newestFirst, held, newest, List.length_cons,
      Nat.add_sub_cancel]

end Debugger

/-- A debugger and the situations on its path, the latest first. -/
structure Trail where
  debugger : Debugger
  path : List Situation

/-- What a debugger can be told to do. A run may begin with any conditions. -/
inductive Command where
  | step
  | back
  | run (breakpoints : List Breakpoint) (budget : Int)

namespace Trail

def start (debugger : Debugger) : Trail := ⟨debugger, [debugger.situation]⟩

def step (trail : Trail) : Trail :=
  match trail.debugger.step with
  | (.ok snapshot, next) =>
    ⟨next, if snapshot.word.isSome then next.situation :: trail.path else trail.path⟩
  | (.error _, next) => ⟨next, trail.path⟩

def back (trail : Trail) : Trail :=
  ⟨trail.debugger.rewound,
    if trail.debugger.history.size = 0 then trail.path else trail.path.tail⟩

/-- A run adds to the path what the steps that it reports add. -/
def run (trail : Trail) (breakpoints : List Breakpoint) (budget : Int) : Trail :=
  let ready := { trail.debugger with breakpoints }
  match ready.run budget with
  | (.ok count, next) => ⟨next, (step^[count] ⟨ready, trail.path⟩).path⟩
  | (.error _, next) => ⟨next, trail.path⟩

def perform (trail : Trail) : Command → Trail
  | .step => trail.step
  | .back => trail.back
  | .run breakpoints budget => trail.run breakpoints budget

def follow (trail : Trail) (commands : List Command) : Trail := commands.foldl perform trail

/-- The history of the debugger is linked to the path, and nothing on either is malformed. -/
structure Sound (limit : Nat) (trail : Trail) : Prop where
  positive : 0 < limit
  sized : trail.debugger.history.limit = limit
  bounded : trail.debugger.history.size ≤ limit
  wellFormed : ∀ situation ∈ trail.path, situation.1.WellFormed
  linked : Linked trail.debugger.history.origin trail.debugger.history.newestFirst
    trail.debugger.machine.bus.ram trail.path
  current : trail.debugger.machine.state =
    newestState trail.debugger.history.origin trail.debugger.history.newestFirst
  last : ∀ snapshot ∈ trail.debugger.last, snapshot.state = trail.debugger.machine.state

theorem step_of_executed {trail : Trail} {snapshot : Snapshot} {next : Debugger}
    (success : trail.debugger.step = (.ok snapshot, next)) (executed : snapshot.word.isSome = true) :
    trail.step = ⟨next, next.situation :: trail.path⟩ := by
  simp [step, success, executed]

section Steps

variable {limit : Nat} {trail : Trail} (sound : trail.Sound limit)

include sound

theorem Sound.head? : trail.path.head? = some trail.debugger.situation := by
  rw [sound.linked.head?, Debugger.situation, sound.current]

theorem Sound.wellFormed_state : trail.debugger.machine.state.WellFormed :=
  sound.wellFormed _ (List.mem_of_mem_head? sound.head?)

/-- What a step does to a debugger that is sound: nothing if the machine is halted, and else
it executes an instruction and takes its snapshot in. -/
theorem Sound.step_cases :
    (trail.debugger.machine.state.halted = true ∧ ∃ snapshot next,
      trail.debugger.step = (.ok snapshot, next) ∧ snapshot.word = none ∧
        snapshot.state = trail.debugger.machine.state ∧ next.situation = trail.debugger.situation ∧
          next.history = trail.debugger.history ∧ next.last = some snapshot) ∨
    (trail.debugger.machine.state.halted = false ∧ ∃ snapshot next,
      trail.debugger.step = (.ok snapshot, next) ∧ snapshot.word.isSome = true ∧
        next.situation = (snapshot.state, next.machine.bus.ram) ∧ snapshot.state.WellFormed ∧
          next.machine.bus.ram.undo snapshot.accesses = trail.debugger.machine.bus.ram ∧
            next.history = trail.debugger.history.push snapshot ∧ next.last = some snapshot) := by
  unfold Debugger.step
  by_cases halted : trail.debugger.machine.state.halted = true
  · refine .inl ⟨halted, ?_⟩
    rw [Machine.step_of_halted halted]
    exact ⟨_, _, rfl, rfl, rfl, rfl, rfl, rfl⟩
  · have running : trail.debugger.machine.state.halted = false := by simpa using halted
    obtain ⟨snapshot, next, success, kept⟩ := Machine.wellFormed_step sound.wellFormed_state
    obtain ⟨word, same, undone⟩ := Machine.step_of_running running success
    refine .inr ⟨running, ?_⟩
    rw [success]
    simp only [Debugger.remember, word]
    exact ⟨snapshot, _, rfl, by simp [word], by rw [Debugger.situation, same], same ▸ kept, undone, rfl, rfl⟩

theorem Sound.step : trail.step.Sound limit := by
  rcases sound.step_cases with
    ⟨halted, snapshot, next, success, word, state, situation, history, last⟩ |
    ⟨running, snapshot, next, success, word, situation, kept, undone, history, last⟩
  · -- A halted machine adds nothing, so all links stay.
    have trailed : trail.step = ⟨next, trail.path⟩ := by simp [Trail.step, success, word]
    have sameState := congrArg Prod.fst situation
    have sameRam := congrArg Prod.snd situation
    simp only [Debugger.situation] at sameState sameRam
    rw [trailed]
    refine ⟨sound.positive, ?_, ?_, sound.wellFormed, ?_, ?_, ?_⟩
    · rw [history, sound.sized]
    · rw [history]
      exact sound.bounded
    · rw [history, sameRam]
      exact sound.linked
    · rw [history, sameState]
      exact sound.current
    · intro other latest
      rw [last] at latest
      obtain rfl := Option.some.inj latest
      rw [state, sameState]
  · have trailed := step_of_executed success word
    have sameState := congrArg Prod.fst situation
    simp only [Debugger.situation] at sameState
    have room := sound.positive
    rw [← sound.sized] at room
    have grown := History.size_push (sound.sized ▸ sound.bounded) room snapshot
    -- The link to the memory before the step is the old one, by undoing the accesses.
    have linked : Linked (trail.debugger.history.push snapshot).origin
        (trail.debugger.history.push snapshot).newestFirst next.machine.bus.ram
        ((snapshot.state, next.machine.bus.ram) :: trail.path) :=
      Linked.push (undone ▸ sound.linked) room
    rw [trailed]
    refine ⟨sound.positive, ?_, ?_, ?_, ?_, ?_, ?_⟩
    · rw [history, History.limit_push, sound.sized]
    · rw [history, grown, sound.sized]
      exact Nat.min_le_right _ _
    · rw [situation]
      exact List.forall_mem_cons.mpr ⟨kept, sound.wellFormed⟩
    · rw [history, situation]
      exact linked
    · have newest := linked.head?
      rw [history, sameState]
      exact congrArg Prod.fst (Option.some.inj newest)
    · intro other latest
      rw [last] at latest
      obtain rfl := Option.some.inj latest
      exact sameState.symm

theorem Sound.counts_step (running : trail.debugger.machine.state.halted = false) :
    trail.step.debugger.history.size = min (trail.debugger.history.size + 1) limit ∧
      trail.step.path.length = trail.path.length + 1 := by
  rcases sound.step_cases with ⟨halted, _⟩ | ⟨_, snapshot, next, success, word, _, _, _, history, _⟩
  · simp [running] at halted
  · have room := sound.positive
    have bounded := sound.bounded
    rw [← sound.sized] at room bounded
    rw [step_of_executed success word]
    exact ⟨by rw [history, History.size_push bounded room, sound.sized], rfl⟩

theorem Sound.back : trail.back.Sound limit := by
  have shrunk := trail.debugger.size_rewound
  rcases trail.debugger.back_cases with
    ⟨empty, unchanged⟩ | ⟨snapshot, older, held, sized, origin, newest, situation, last⟩
  · -- Without a snapshot there is no way back.
    have trailed : trail.back = trail := by
      simp [Trail.back, Debugger.rewound, empty, unchanged]
    exact trailed.symm ▸ sound
  · have count := trail.debugger.history.length_newestFirst
    rw [held, List.length_cons] at count
    have trailed : trail.back = ⟨trail.debugger.rewound, trail.path.tail⟩ := by
      rw [Trail.back, if_neg (by omega)]
    have linked := sound.linked
    rw [held] at linked
    have sameState := congrArg Prod.fst situation
    have sameRam := congrArg Prod.snd situation
    simp only [Debugger.situation] at sameState sameRam
    rw [trailed]
    refine ⟨sound.positive, ?_, ?_, ?_, ?_, ?_, ?_⟩
    · exact sized.trans sound.sized
    · have := sound.bounded
      simp only
      omega
    · exact fun situation member => sound.wellFormed situation (List.mem_of_mem_tail member)
    · simp only
      rw [origin, newest, sameRam]
      exact linked.2
    · simp only
      rw [sameState, origin, newest]
    · intro other latest
      simp only at latest ⊢
      rw [last] at latest
      rw [sameState, newestState, latest]
      rfl

theorem Sound.iterate_step (count : Nat) : (Trail.step^[count] trail).Sound limit := by
  induction count with
  | zero => exact sound
  | succ count ih =>
    rw [Function.iterate_succ_apply']
    exact ih.step

theorem Sound.withBreakpoints (breakpoints : List Breakpoint) :
    Trail.Sound limit ⟨{ trail.debugger with breakpoints }, trail.path⟩ :=
  ⟨sound.positive, sound.sized, sound.bounded, sound.wellFormed, sound.linked, sound.current, sound.last⟩

theorem Sound.runFrom (executed budget : Nat) :
    ∃ count, trail.debugger.runFrom executed budget =
        (.ok (executed + count), (Trail.step^[count] trail).debugger) ∧ count ≤ budget ∧
      ∀ i < count, (Trail.step^[i] trail).debugger.machine.state.halted = false := by
  -- The trail is generalized, since the rest of a run is the run of the trail after one step.
  induction budget generalizing trail executed with
  | zero => exact ⟨0, rfl, Nat.le_refl 0, by simp⟩
  | succ budget ih =>
    unfold Debugger.runFrom
    by_cases held : (trail.debugger.machine.state.halted ||
        (0 < executed && trail.debugger.stopsHere)) = true
    · rw [if_pos held]
      exact ⟨0, rfl, Nat.zero_le _, by simp⟩
    · rw [if_neg held]
      simp only [Bool.or_eq_true, not_or, Bool.not_eq_true] at held
      rcases sound.step_cases with ⟨halted, _⟩ | ⟨running, snapshot, next, success, word, _⟩
      · simp [held.1] at halted
      · have trailed : trail.step.debugger = next := by rw [step_of_executed success word]
        rw [success]
        by_cases stops : (snapshot.state.halted || next.stopsAfter snapshot) = true
        · refine ⟨1, ?_, by omega, ?_⟩
          · simp [stops, trailed]
          · intro i below
            obtain rfl : i = 0 := by omega
            exact running
        · obtain ⟨count, ran, within, executes⟩ := ih sound.step (executed + 1)
          refine ⟨count + 1, ?_, by omega, ?_⟩
          · rw [trailed] at ran
            simp only [stops, Bool.false_eq_true, if_false, ran, Function.iterate_succ_apply]
            rw [Nat.add_assoc, Nat.add_comm 1]
          · intro i below
            cases i with
            | zero => exact running
            | succ i => exact executes i (by omega)

/-- Executed instructions add to the history up to its limit, and to the path without one. -/
theorem Sound.counts_iterate {count : Nat}
    (executes : ∀ i < count, (Trail.step^[i] trail).debugger.machine.state.halted = false) :
    (Trail.step^[count] trail).debugger.history.size = min (trail.debugger.history.size + count) limit ∧
      (Trail.step^[count] trail).path.length = trail.path.length + count := by
  induction count with
  | zero =>
    exact ⟨(Nat.min_eq_left sound.bounded).symm, rfl⟩
  | succ count ih =>
    obtain ⟨size, length⟩ := ih fun i below => executes i (by omega)
    rw [Function.iterate_succ_apply']
    have before := sound.iterate_step count
    obtain ⟨grown, longer⟩ := before.counts_step (executes count (by omega))
    rw [grown, longer, size, length]
    omega

theorem Sound.run_eq (breakpoints : List Breakpoint) (budget : Int) :
    ∃ count, ({ trail.debugger with breakpoints } : Debugger).run budget =
        (.ok count, (trail.run breakpoints budget).debugger) ∧ count ≤ budget.toNat ∧
      trail.run breakpoints budget = Trail.step^[count] ⟨{ trail.debugger with breakpoints }, trail.path⟩ ∧
      ∀ i < count, (Trail.step^[i] ⟨{ trail.debugger with breakpoints }, trail.path⟩ : Trail
        ).debugger.machine.state.halted = false := by
  obtain ⟨count, ran, within, executes⟩ := (sound.withBreakpoints breakpoints).runFrom 0 budget.toNat
  rw [Nat.zero_add] at ran
  have whole : ({ trail.debugger with breakpoints } : Debugger).run budget = (.ok count,
      (Trail.step^[count] ⟨{ trail.debugger with breakpoints }, trail.path⟩ : Trail).debugger) := ran
  have trailed : trail.run breakpoints budget =
      Trail.step^[count] ⟨{ trail.debugger with breakpoints }, trail.path⟩ := by
    simp [Trail.run, whole]
  exact ⟨count, by rw [trailed, whole], within, trailed, executes⟩

theorem Sound.perform (command : Command) : (trail.perform command).Sound limit := by
  cases command with
  | step => exact sound.step
  | back => exact sound.back
  | run breakpoints budget =>
    obtain ⟨count, _, _, trailed, _⟩ := sound.run_eq breakpoints budget
    rw [Trail.perform, trailed]
    exact (sound.withBreakpoints breakpoints).iterate_step count

theorem Sound.follow (commands : List Command) : (trail.follow commands).Sound limit := by
  induction commands generalizing trail with
  | nil => exact sound
  | cons command rest ih => exact ih (sound.perform command)

/-- Taking back as often as the history allows leads down the path. -/
theorem Sound.rewind {j : Nat} (held : j ≤ trail.debugger.history.size) :
    trail.path[j]? = some (Debugger.rewound^[j] trail.debugger).situation := by
  induction j generalizing trail with
  | zero => rw [← List.head?_eq_getElem?, sound.head?]; rfl
  | succ j ih =>
    -- Taking back once is sound, and leaves one place less on the path and in the history.
    have shorter : trail.back.path = trail.path.tail := by
      rw [Trail.back]
      exact if_neg (by omega)
    have before := ih sound.back (by rw [Trail.back, trail.debugger.size_rewound]; omega)
    rw [shorter, List.getElem?_tail] at before
    rw [before, Function.iterate_succ_apply]
    rfl

end Steps

/-- What holds of a debugger and its path at every point, for a limit of the history. -/
structure Exact (limit : Nat) (trail : Trail) : Prop where
  bounded : trail.debugger.history.size ≤ limit
  current : trail.path.head? = some trail.debugger.situation
  rewind : ∀ j ≤ trail.debugger.history.size,
    trail.path[j]? = some (Debugger.rewound^[j] trail.debugger).situation
  unchanged : trail.debugger.history.size = 0 → trail.debugger.back = (none, trail.debugger)
  last : ∀ snapshot, trail.debugger.last = some snapshot → snapshot.state = trail.debugger.machine.state
  steps : ∃ snapshot next, trail.debugger.step = (.ok snapshot, next) ∧
    next.history.size =
      if snapshot.word.isSome then min (trail.debugger.history.size + 1) limit
      else trail.debugger.history.size
  shrinks : trail.debugger.rewound.history.size = trail.debugger.history.size - 1
  runs : ∀ breakpoints budget, ∃ count,
    ({ trail.debugger with breakpoints } : Debugger).run budget =
        (.ok count, (trail.run breakpoints budget).debugger) ∧
      (trail.run breakpoints budget).path.length = trail.path.length + count ∧
        (trail.run breakpoints budget).debugger.history.size =
          min (trail.debugger.history.size + count) limit

theorem Sound.exact {limit : Nat} {trail : Trail} (sound : trail.Sound limit) : trail.Exact limit where
  bounded := sound.bounded
  current := sound.head?
  rewind := fun j held => sound.rewind held
  unchanged := by
    intro empty
    rcases trail.debugger.back_cases with ⟨_, unchanged⟩ | ⟨snapshot, older, held, _⟩
    · exact unchanged
    · -- An empty history has no snapshot to go back to.
      have count := trail.debugger.history.length_newestFirst
      rw [held, List.length_cons] at count
      omega
  last := sound.last
  steps := by
    rcases sound.step_cases with
      ⟨_, snapshot, next, success, word, _, _, history, _⟩ |
      ⟨running, snapshot, next, success, word, _⟩
    · exact ⟨snapshot, next, success, by simp [word, history]⟩
    · have counts := (sound.counts_step running).1
      rw [step_of_executed success word] at counts
      exact ⟨snapshot, next, success, by rw [if_pos word, counts]⟩
  shrinks := trail.debugger.size_rewound
  runs := by
    intro breakpoints budget
    obtain ⟨count, ran, _, trailed, executes⟩ := sound.run_eq breakpoints budget
    obtain ⟨size, length⟩ := (sound.withBreakpoints breakpoints).counts_iterate executes
    exact ⟨count, ran, by rw [trailed]; exact length, by rw [trailed]; exact size⟩

/-- A debugger that was just made with a limit, or has just forgotten its past. -/
inductive Fresh (limit : Nat) : Debugger → Prop where
  | created {machine : Machine} {debugger : Debugger}
      (success : Debugger.create machine (some limit) = .ok debugger) : Fresh limit debugger
  | cleared (debugger : Debugger) (sized : debugger.history.limit = limit) (positive : 0 < limit) :
      Fresh limit debugger.clearHistory

theorem Fresh.sound {limit : Nat} {debugger : Debugger} (fresh : Fresh limit debugger)
    (wellFormed : debugger.machine.state.WellFormed) : (start debugger).Sound limit := by
  cases fresh with
  | @created machine _ success =>
    obtain ⟨history, made, rfl⟩ := map_eq_ok_iff.mp success
    obtain ⟨positive, rfl⟩ := History.create_eq_ok made
    refine ⟨positive, rfl, Nat.zero_le _, List.forall_mem_singleton.mpr wellFormed, rfl, rfl, ?_⟩
    simp [start]
  | cleared debugger sized positive =>
    refine ⟨positive, sized, Nat.zero_le _, List.forall_mem_singleton.mpr wellFormed, rfl, rfl, ?_⟩
    simp [start, Debugger.clearHistory]

/-- Whatever is done to a fresh debugger in a well-formed state, its history leads back along
its path exactly. -/
theorem follow_exact {limit : Nat} {debugger : Debugger} (fresh : Fresh limit debugger)
    (wellFormed : debugger.machine.state.WellFormed) (commands : List Command) :
    ((start debugger).follow commands).Exact limit :=
  ((fresh.sound wellFormed).follow commands).exact

def storing : Machine where
  bus := { ram := .zeroed 1, rom := .filled 4 [0x5407, 0xC400, 0xC401] }
  state := .initial 2
  depth := 2

theorem follow_exact_storing :
    Fresh 2 { machine := storing, history := { limit := 2, origin := .initial 2 }, previous := .initial 2 } ∧
      storing.state.WellFormed ∧
      ((start { machine := storing, history := { limit := 2, origin := .initial 2 }
                previous := .initial 2 }).follow [.step, .run [] 5, .back, .back, .step]).Exact 2 :=
  have fresh : Fresh 2
      { machine := storing, history := { limit := 2, origin := .initial 2 }, previous := .initial 2 } :=
    @Fresh.created 2 storing _ rfl
  have wellFormed : storing.state.WellFormed := State.wellFormed_initial (by decide)
  ⟨fresh, wellFormed, follow_exact fresh wellFormed [.step, .run [] 5, .back, .back, .step]⟩

end Trail

end HarvardBench
