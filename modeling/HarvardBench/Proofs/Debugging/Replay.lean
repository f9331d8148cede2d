import HarvardBench.Proofs.Debugging.Rewind
import HarvardBench.Proofs.Machine.Table

/-! Replaying an instruction that was taken back.

Taking an instruction back restores the state and the data memory, and leaves the cycle count
where it is. So a replay does again all that the instruction did and counts it once more, and
the cycle count is ahead of the path by the instructions that were taken back.
-/

set_option autoImplicit false

namespace HarvardBench

def Snapshot.recounted (snapshot : Snapshot) : Snapshot :=
  { snapshot with cycles := snapshot.cycles + 1 }

def Machine.recounted (machine : Machine) : Machine := { machine with cycles := machine.cycles + 1 }

namespace Machine

variable {machine next : Machine} {snapshot : Snapshot}

theorem step_recounted (wellFormed : machine.state.WellFormed) (running : machine.state.halted = false)
    (success : machine.step = (.ok snapshot, next)) :
    next = { machine with bus := { machine.bus.clearLog with ram := next.bus.ram }
                          state := next.state, cycles := machine.cycles + 1 } ∧
      snapshot.cycles = machine.cycles + 1 ∧
        { machine.recounted with bus := machine.bus.clearLog }.step =
          (.ok snapshot.recounted, next.recounted) := by
  obtain ⟨processor, same⟩ := wellFormed.exists_processor
  rw [step_state same running] at success
  have again : Machine.step { machine.recounted with bus := machine.bus.clearLog } = _ :=
    step_state same running
  cases success
  exact ⟨rfl, rfl, again⟩

end Machine

/-- Without its latest snapshot, a history takes another one in as it would have before. -/
theorem History.push_of_pop_push {history : History} (positive : 0 < history.limit)
    (snapshot : Snapshot) :
    ∃ rest, (history.push snapshot).pop? = some (snapshot, rest) ∧
      ∀ other, rest.push other = history.push other := by
  unfold push pop?
  by_cases full : history.snapshots.size = history.limit
  · -- A full history has dropped its oldest snapshot, so the replay finds room and drops none.
    simp only [if_pos full]
    refine ⟨{ history with
      origin := (history.snapshots[0]?.map Snapshot.state).getD history.origin
      snapshots := history.snapshots.eraseIdxIfInBounds 0 }, by simp, fun other => ?_⟩
    have room : (history.snapshots.eraseIdxIfInBounds 0).size ≠ history.limit := by
      rw [Array.eraseIdxIfInBounds_eq, dif_pos (full ▸ positive), Array.size_eraseIdx]
      omega
    exact if_neg room
  · simp only [if_neg full]
    exact ⟨history, by simp, fun other => if_neg full⟩

theorem History.getElem?_newestFirst_push {history : History} (positive : 0 < history.limit)
    (latest : Snapshot) {age : Nat} {snapshot : Snapshot}
    (held : (history.push latest).newestFirst[age + 1]? = some snapshot) :
    history.newestFirst[age]? = some snapshot := by
  by_cases full : history.size = history.limit
  · obtain ⟨older, oldest, all⟩ := exists_oldest full positive
    rw [(newestFirst_push_of_full latest full all).1, List.getElem?_cons_succ] at held
    obtain ⟨inside, _⟩ := List.getElem?_eq_some_iff.mp held
    rw [all, List.getElem?_append_left inside, held]
  · rwa [(newestFirst_push_of_room latest full).1, List.getElem?_cons_succ] at held

theorem History.head?_newestFirst_push {history : History} (positive : 0 < history.limit)
    (latest : Snapshot) : (history.push latest).newestFirst[0]? = some latest := by
  by_cases full : history.size = history.limit
  · obtain ⟨older, oldest, all⟩ := exists_oldest full positive
    rw [(newestFirst_push_of_full latest full all).1, List.getElem?_cons_zero]
  · rw [(newestFirst_push_of_room latest full).1, List.getElem?_cons_zero]

def Debugger.executed (debugger : Debugger) (machine : Machine) (snapshot : Snapshot) : Debugger :=
  { debugger with machine
                  previous := debugger.machine.state
                  history := debugger.history.push snapshot
                  last := some snapshot }

theorem Debugger.step_of_running {debugger : Debugger} {snapshot : Snapshot} {machine : Machine}
    (running : debugger.machine.state.halted = false)
    (success : debugger.machine.step = (.ok snapshot, machine)) :
    snapshot.word.isSome = true ∧
      debugger.step = (.ok snapshot, debugger.executed machine snapshot) := by
  obtain ⟨word, _⟩ := Machine.step_of_running running success
  rw [step, success]
  simp [remember, word, executed]

theorem Debugger.cycles_rewound (debugger : Debugger) :
    debugger.rewound.machine.cycles = debugger.machine.cycles := by
  unfold rewound back
  cases debugger.history.pop? <;> rfl

namespace Trail

variable {limit : Nat} {trail : Trail}

/-- Executing an instruction and taking it back leaves the machine as it was, with one more
cycle on its count, and a history that takes the replay in where it had the instruction. -/
theorem Sound.rewound_step (sound : trail.Sound limit)
    (running : trail.debugger.machine.state.halted = false) :
    ∃ first next, trail.debugger.step = (.ok first, next) ∧
      next.history = trail.debugger.history.push first ∧
      next.rewound.step = (.ok first.recounted,
        { next with machine := next.machine.recounted
                    history := trail.debugger.history.push first.recounted
                    last := some first.recounted }) := by
  obtain ⟨first, stepped, success, _⟩ := Machine.wellFormed_step sound.wellFormed_state
  obtain ⟨word, _, undone⟩ := Machine.step_of_running running success
  obtain ⟨frame, _, again⟩ := Machine.step_recounted sound.wellFormed_state running success
  obtain ⟨rest, popped, takes⟩ := History.push_of_pop_push (sound.sized ▸ sound.positive) first
  obtain ⟨executed, ran⟩ := Debugger.step_of_running running success
  refine ⟨first, trail.debugger.executed stepped first, ran, rfl, ?_⟩
  have back : (trail.debugger.executed stepped first).rewound =
      { trail.debugger.executed stepped first with
        machine := { stepped with bus := stepped.bus.undo first.accesses, state := rest.current }
        history := rest
        last := rest.last? } := by
    rw [Debugger.rewound, Debugger.back, show (trail.debugger.executed stepped first).history.pop? = _ from popped]
    rfl
  -- The situation after taking back is the one that the step was made in.
  have restored : (trail.debugger.executed stepped first).rewound.situation = trail.debugger.situation := by
    have room : 1 ≤ trail.step.debugger.history.size := by
      have grown := (sound.counts_step running).1
      have := sound.positive
      omega
    have situation := sound.step.rewind room
    rw [step_of_executed ran executed, List.getElem?_cons_succ, ← List.head?_eq_getElem?,
      sound.head?] at situation
    exact (Option.some.inj situation).symm
  have machine : (trail.debugger.executed stepped first).rewound.machine =
      { trail.debugger.machine.recounted with bus := trail.debugger.machine.bus.clearLog } := by
    have state : rest.current = trail.debugger.machine.state := by
      simpa [back, Debugger.situation] using congrArg Prod.fst restored
    rw [back]
    dsimp only
    rw [state, Bus.undo_eq, undone, frame]
    rfl
  rw [Debugger.step, machine, again]
  simp only [Debugger.remember, Snapshot.recounted, word, back, takes]
  rfl

def undone (trail : Trail) : Command → Nat
  | .back => if trail.debugger.history.size = 0 then 0 else 1
  | .step | .run .. => 0

/-- The number of instructions that are taken back on the way. -/
def retracted (trail : Trail) : List Command → Nat
  | [] => 0
  | command :: rest => trail.undone command + (trail.perform command).retracted rest

/-- The cycle counts are those of the instructions on the path, from a number on, and of those
that were taken back before. -/
structure Counted (start retracted : Nat) (trail : Trail) : Prop where
  cycles : trail.debugger.machine.cycles + 1 = start + trail.path.length + retracted
  snapshots : ∀ age snapshot, trail.debugger.history.newestFirst[age]? = some snapshot →
    ∃ extra ≤ retracted, snapshot.cycles + 1 + age = start + trail.path.length + extra

variable {start retracted : Nat}

theorem Counted.step (sound : trail.Sound limit) (counted : trail.Counted start retracted) :
    trail.step.Counted start retracted := by
  -- A halted machine executes nothing, so neither its count nor the path grows.
  cases halted : trail.debugger.machine.state.halted with
  | true =>
    have trailed : trail.step.debugger.machine.cycles = trail.debugger.machine.cycles ∧
        trail.step.debugger.history = trail.debugger.history ∧ trail.step.path = trail.path := by
      rw [Trail.step, Debugger.step, Machine.step_of_halted halted]
      exact ⟨rfl, rfl, rfl⟩
    obtain ⟨cycles, history, path⟩ := trailed
    exact ⟨by rw [cycles, path, counted.cycles], by rw [history, path]; exact counted.snapshots⟩
  | false =>
    obtain ⟨snapshot, next, success, _⟩ := Machine.wellFormed_step sound.wellFormed_state
    obtain ⟨frame, cycles, _⟩ := Machine.step_recounted sound.wellFormed_state halted success
    obtain ⟨executed, ran⟩ := Debugger.step_of_running halted success
    have total := counted.cycles
    have positive : 0 < trail.debugger.history.limit := sound.sized ▸ sound.positive
    rw [step_of_executed ran executed]
    refine ⟨?_, fun age other held => ?_⟩
    · rw [List.length_cons, Debugger.executed, frame]
      dsimp only
      omega
    · cases age with
      | zero =>
        obtain rfl := Option.some.inj ((History.head?_newestFirst_push positive snapshot).symm.trans held)
        refine ⟨retracted, Nat.le_refl _, ?_⟩
        rw [List.length_cons, cycles]
        omega
      | succ age =>
        obtain ⟨extra, few, same⟩ :=
          counted.snapshots age other (History.getElem?_newestFirst_push positive snapshot held)
        refine ⟨extra, few, ?_⟩
        rw [List.length_cons]
        omega

theorem Counted.iterate_step (sound : trail.Sound limit) (counted : trail.Counted start retracted)
    (count : Nat) : (Trail.step^[count] trail).Counted start retracted := by
  induction count with
  | zero => exact counted
  | succ count ih =>
    rw [Function.iterate_succ_apply']
    exact ih.step (sound.iterate_step count)

theorem Counted.back (sound : trail.Sound limit) (counted : trail.Counted start retracted) :
    trail.back.Counted start (retracted + trail.undone .back) := by
  have total := counted.cycles
  rcases trail.debugger.back_cases with
    ⟨empty, unchanged⟩ | ⟨snapshot, older, held, _, _, newest, _⟩
  · have trailed : trail.back = trail := by
      simp [Trail.back, Debugger.rewound, empty, unchanged]
    rwa [trailed, undone, if_pos empty]
  · have filled : trail.debugger.history.size ≠ 0 := by
      rw [← History.length_newestFirst, held]
      exact Nat.succ_ne_zero _
    -- The path gets shorter by one and the count does not: that is one more taken back.
    obtain ⟨earlier, path⟩ := List.head?_eq_some_iff.mp sound.head?
    rw [path, List.length_cons] at total
    rw [Trail.back, undone, if_neg filled, if_neg filled, path, List.tail_cons]
    refine ⟨?_, fun age other known => ?_⟩
    · rw [trail.debugger.cycles_rewound]
      dsimp only
      omega
    · rw [newest] at known
      obtain ⟨extra, few, same⟩ := counted.snapshots (age + 1) other (by rw [held, List.getElem?_cons_succ, known])
      rw [path, List.length_cons] at same
      refine ⟨extra, by omega, ?_⟩
      dsimp only
      omega

theorem Counted.perform (sound : trail.Sound limit) (counted : trail.Counted start retracted)
    (command : Command) : (trail.perform command).Counted start (retracted + trail.undone command) := by
  cases command with
  | step => exact counted.step sound
  | back => exact counted.back sound
  | run breakpoints budget =>
    -- A run is some number of steps under its breakpoints.
    obtain ⟨count, _, _, trailed, _⟩ := sound.run_eq breakpoints budget
    rw [Trail.perform, trailed]
    have ready : Trail.Counted start retracted ⟨{ trail.debugger with breakpoints }, trail.path⟩ :=
      ⟨counted.cycles, counted.snapshots⟩
    exact ready.iterate_step (sound.withBreakpoints breakpoints) count

theorem Counted.follow (sound : trail.Sound limit) (counted : trail.Counted start retracted)
    (commands : List Command) :
    (trail.follow commands).Counted start (retracted + trail.retracted commands) := by
  induction commands generalizing trail retracted with
  | nil => exact counted
  | cons command rest ih =>
    rw [Trail.retracted, ← Nat.add_assoc]
    exact ih (sound.perform command) (counted.perform sound command)

theorem Fresh.counted {debugger : Debugger} (fresh : Fresh limit debugger) :
    (Trail.start debugger).Counted debugger.machine.cycles 0 := by
  have none : debugger.history.newestFirst = [] := by
    cases fresh with
    | created success =>
      obtain ⟨history, made, rfl⟩ := map_eq_ok_iff.mp success
      obtain ⟨_, rfl⟩ := History.create_eq_ok made
      rfl
    | cleared => rfl
  refine ⟨rfl, fun age snapshot held => ?_⟩
  rw [Trail.start, none] at held
  cases held

/-- Whatever is done to a fresh debugger in a well-formed state, an instruction that is taken
back and replayed does all that it did and counts one cycle more, and every cycle count
is ahead of the path by instructions that were taken back. -/
theorem follow_replay {debugger : Debugger} (fresh : Fresh limit debugger)
    (wellFormed : debugger.machine.state.WellFormed) (commands : List Command) :
    let trail := (Trail.start debugger).follow commands
    (trail.debugger.machine.state.halted = false →
      ∃ first next, trail.debugger.step = (.ok first, next) ∧
        next.history = trail.debugger.history.push first ∧
        next.rewound.step = (.ok first.recounted,
          { next with machine := next.machine.recounted
                      history := trail.debugger.history.push first.recounted
                      last := some first.recounted })) ∧
      trail.Counted debugger.machine.cycles ((Trail.start debugger).retracted commands) := by
  have sound := fresh.sound wellFormed
  refine ⟨(sound.follow commands).rewound_step, ?_⟩
  rw [← Nat.zero_add (Trail.retracted _ _)]
  exact fresh.counted.follow sound commands

def looping : Machine where
  bus := { ram := .zeroed 1, rom := .filled 1 [0x8000] }
  state := .initial 1
  depth := 1

def idle : Debugger :=
  { machine := looping, history := { limit := 1, origin := .initial 1 }, previous := .initial 1 }

theorem fresh_idle : Fresh 1 idle := @Fresh.created 1 looping _ rfl

theorem wellFormed_idle : idle.machine.state.WellFormed := State.wellFormed_initial (by decide)

theorem follow_replay_looping :
    Fresh 1 idle ∧ idle.machine.state.WellFormed ∧
      ((Trail.start idle).follow [.step, .back]).debugger.machine.state.halted = false ∧
      (∃ first next, ((Trail.start idle).follow [.step, .back]).debugger.step = (.ok first, next) ∧
        first.cycles = 2 ∧ ∃ second last, next.rewound.step = (.ok second, last) ∧ second.cycles = 3) ∧
      ((Trail.start idle).follow [.step, .back]).Counted 0 1 := by
  obtain ⟨replays, counted⟩ := follow_replay fresh_idle wellFormed_idle [.step, .back]
  obtain ⟨first, next, stepped, _, again⟩ := replays rfl
  have count : first.cycles = 2 :=
    (Option.some.inj (congrArg (fun outcome => outcome.1.toOption.map Snapshot.cycles) stepped)).symm
  exact ⟨fresh_idle, wellFormed_idle, rfl,
    ⟨first, next, stepped, count, _, _, again, congrArg (· + 1) count⟩, counted⟩

/-- The replay of a jump shows a higher count than the jump did. -/
theorem not_follow_replay_equal :
    ¬ ∀ (limit : Nat) (debugger : Debugger) (commands : List Command),
      Fresh limit debugger → debugger.machine.state.WellFormed →
      let trail := (Trail.start debugger).follow commands
      trail.debugger.machine.state.halted = false →
        trail.debugger.step.2.rewound.step.1 = trail.debugger.step.1 := by
  intro equal
  have same := equal 1 idle [] fresh_idle wellFormed_idle rfl
  have counts := congrArg (fun outcome => outcome.toOption.map Snapshot.cycles) same
  exact absurd counts (by decide)

end Trail

end HarvardBench
