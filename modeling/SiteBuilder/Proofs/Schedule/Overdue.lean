import Mathlib.Algebra.GroupWithZero.Nat
import Mathlib.Data.List.Induction
import SiteBuilder.Proofs.Schedule.Tasks

/-!
# Tasks that are overdue

A task that is due stays due as long as the clock goes forward. A clock counts in 64 bits and starts over beyond them,
so it goes back exactly if the time that it shows and the time that passes have no room in them. What waits then is not
lost, but it is due again only when the clock has come to its due time once more.

Nothing is assumed of the clock here, neither before a task is due nor after it.
-/

namespace SiteBuilder

universe u

namespace Clock

/-- A clock after spans of time, one after the other. -/
def after (clock : Clock) (spans : List UInt64) : Clock := spans.foldl advance clock

/-- At no point while the spans pass does a clock show an earlier time than at a point before. -/
def NeverGoesBack (clock : Clock) (spans : List UInt64) : Prop :=
  ∀ earlier between, earlier ++ between <+: spans → (clock.after earlier).now ≤ (clock.after (earlier ++ between)).now

variable {clock : Clock} {span : UInt64} {spans : List UInt64}

/-- The time of a clock has 64 bits. -/
theorem now_lt_size (clock : Clock) : clock.now < UInt64.size := clock.elapsed.toNat_lt_size

/-- Time adds up, but for what has no room in 64 bits. -/
theorem now_advance_eq_mod (clock : Clock) (span : UInt64) :
    (clock.advance span).now = (clock.now + span.toNat) % UInt64.size :=
  UInt64.toNat_add clock.elapsed span

/-- A clock does not go back exactly if there is room for its time and the span. -/
theorem now_le_now_advance_iff :
    clock.now ≤ (clock.advance span).now ↔ clock.now + span.toNat < UInt64.size := by
  have hnow := clock.now_lt_size
  have hspan := span.toNat_lt_size
  rw [now_advance_eq_mod]
  unfold UInt64.size at *
  omega

/-- Spans that pass one after the other add up, but for what has no room in 64 bits. -/
theorem now_after (clock : Clock) (spans : List UInt64) :
    (clock.after spans).now = (clock.now + (spans.map UInt64.toNat).sum) % UInt64.size := by
  induction spans generalizing clock with
  | nil => exact (Nat.mod_eq_of_lt clock.now_lt_size).symm
  | cons span rest ih =>
    change ((clock.advance span).after rest).now = _
    rw [ih, now_advance_eq_mod, Nat.mod_add_mod, List.map_cons, List.sum_cons, Nat.add_assoc]

/-- Spans that have room in 64 bits add up. -/
theorem now_after_of_lt (h : clock.now + (spans.map UInt64.toNat).sum < UInt64.size) :
    (clock.after spans).now = clock.now + (spans.map UInt64.toNat).sum := by
  rw [now_after, Nat.mod_eq_of_lt h]

/-- What holds of a clock while spans pass holds of it after the first one. -/
theorem NeverGoesBack.tail (h : clock.NeverGoesBack (span :: spans)) : (clock.advance span).NeverGoesBack spans := by
  intro earlier between hpassed
  exact h (span :: earlier) between ((List.prefix_cons_inj span).mpr hpassed)

/-- A clock never goes back while spans pass exactly if its time and theirs have room together. -/
theorem neverGoesBack_iff :
    clock.NeverGoesBack spans ↔ clock.now + (spans.map UInt64.toNat).sum < UInt64.size := by
  constructor
  · intro h
    induction spans generalizing clock with
    | nil => exact clock.now_lt_size
    | cons span rest ih =>
      have hfirst : clock.now ≤ (clock.advance span).now := h [] [span] (List.prefix_append [span] rest)
      have hadds : (clock.advance span).now = clock.now + span.toNat :=
        now_advance (now_le_now_advance_iff.mp hfirst)
      have hrest := ih h.tail
      rw [hadds, Nat.add_assoc] at hrest
      rwa [List.map_cons, List.sum_cons]
  · rintro hroom earlier between ⟨rest, rfl⟩
    rw [List.map_append, List.sum_append] at hroom
    have hsum : ((earlier ++ between).map UInt64.toNat).sum =
        (earlier.map UInt64.toNat).sum + (between.map UInt64.toNat).sum := by
      rw [List.map_append, List.sum_append]
    rw [now_after_of_lt (by omega), now_after_of_lt (by omega), hsum]
    omega

/-- From every time, a clock can come to zero. -/
theorem exists_now_after_eq_zero (clock : Clock) : ∃ span, (clock.after [span]).now = 0 := by
  refine ⟨0 - clock.elapsed, ?_⟩
  change (clock.elapsed + (0 - clock.elapsed)).toNat = 0
  rw [UInt64.zero_sub, UInt64.add_right_neg, UInt64.toNat_zero]

end Clock

namespace TimedTimer

variable {α : Type u} {state : TimedTimer α} {due : Nat} {task : α}

/-- Among actions that start in a state, one schedules a task with a delay, at the moment that the clock shows then. -/
def SchedulesAt (state : TimedTimer α) (actions : List (TimerAction α)) (moment : Clock) (delay : UInt64)
    (task : α) : Prop :=
  ∃ before rest, actions = before ++ .schedule delay task :: rest ∧ (state.run before).clock = moment

/-- While spans pass from what a clock shows, every task that is due stays due: however a timer was used until its clock
shows this, a task that polling would hand back then is handed back after the spans too. -/
def KeepsDueTasks (α : Type u) (clock : Clock) (spans : List UInt64) : Prop :=
  ∀ (origin : Clock) (actions : List (TimerAction α)) (task : α),
    let state := run ⟨origin, .idle⟩ actions
    state.clock = clock → (state.step .poll).1 = some task →
      ((state.run (spans.map .advance)).step .poll).1 = some task

/-- While time passes, nothing happens to a timer. -/
theorem run_advances (state : TimedTimer α) (spans : List UInt64) :
    state.run (spans.map .advance) = { state with clock := state.clock.after spans } := by
  induction spans generalizing state with
  | nil => rfl
  | cons span rest ih => exact ih { state with clock := state.clock.advance span }

/-- What is polled waits and is due. -/
theorem exists_due_of_poll (h : (state.step .poll).1 = some task) :
    ∃ due, state.timer.slot = some ⟨due, task⟩ ∧ due ≤ state.clock.now :=
  Timer.poll_eq_some_iff.mp h

/-- If anything is polled, what waits is due. -/
theorem due_le_of_poll {polled : α} (hslot : state.timer.slot = some ⟨due, task⟩)
    (h : (state.step .poll).1 = some polled) : due ≤ state.clock.now := by
  obtain ⟨_, hwaits, hdue⟩ := exists_due_of_poll h
  rw [hslot] at hwaits
  cases hwaits
  exact hdue

/-- A task that waits is polled exactly if it is due. -/
theorem poll_iff_due (hslot : state.timer.slot = some ⟨due, task⟩) :
    (state.step .poll).1 = some task ↔ due ≤ state.clock.now := by
  constructor
  · exact due_le_of_poll hslot
  · intro hdue
    exact Timer.poll_eq_some_iff.mpr ⟨due, hslot, hdue⟩

/-- Polling too early does nothing. -/
theorem step_poll_of_early (hslot : state.timer.slot = some ⟨due, task⟩) (hearly : state.clock.now < due) :
    state.step .poll = (none, state) := by
  rcases state.timer.poll_cases state.clock.now with ⟨polled, -, hpoll⟩ | hpoll
  · have hdue : due ≤ state.clock.now := due_le_of_poll hslot (congrArg Prod.fst hpoll)
    exact absurd hdue (Nat.not_le.mpr hearly)
  · rw [TimedTimer.step, hpoll]

/-- After spans have passed, a task that waits is polled exactly if the clock shows its due time or a later one. -/
theorem poll_after_iff_due (hslot : state.timer.slot = some ⟨due, task⟩) (spans : List UInt64) :
    ((state.run (spans.map .advance)).step .poll).1 = some task ↔ due ≤ (state.clock.after spans).now := by
  rw [run_advances]
  exact poll_iff_due hslot

/-- One more action is a step at the end of a run. -/
theorem run_concat (state : TimedTimer α) (actions : List (TimerAction α)) (action : TimerAction α) :
    state.run (actions ++ [action]) = ((state.run actions).step action).2 := by
  rw [run, List.foldl_append]
  rfl

/-- What is scheduled is scheduled also if one more action follows. -/
theorem SchedulesAt.concat {actions : List (TimerAction α)} {moment : Clock} {delay : UInt64}
    (h : state.SchedulesAt actions moment delay task) (action : TimerAction α) :
    state.SchedulesAt (actions ++ [action]) moment delay task := by
  obtain ⟨before, rest, rfl, hmoment⟩ := h
  refine ⟨before, rest ++ [action], ?_, hmoment⟩
  rw [List.append_assoc, List.cons_append]

/-- A task that waits was scheduled by one of the actions. Its due time is what the clock showed then and its delay,
also if the clock has started over since. -/
theorem exists_schedulesAt_of_slot (hidle : state.timer = .idle) {actions : List (TimerAction α)}
    (hslot : (state.run actions).timer.slot = some ⟨due, task⟩) :
    ∃ moment delay, state.SchedulesAt actions moment delay task ∧ due = moment.now + delay.toNat := by
  -- From the end: an action that does not schedule the task leaves it as it waited before.
  induction actions using List.reverseRecOn with
  | nil =>
    change state.timer.slot = _ at hslot
    rw [hidle] at hslot
    cases hslot
  | append_singleton actions action ih =>
    have hwaited (hbefore : (state.run actions).timer.slot = some ⟨due, task⟩) :
        ∃ moment delay, state.SchedulesAt (actions ++ [action]) moment delay task ∧ due = moment.now + delay.toNat := by
      obtain ⟨moment, delay, hscheduled, hdue⟩ := ih hbefore
      exact ⟨moment, delay, hscheduled.concat action, hdue⟩
    rw [run_concat] at hslot
    cases action with
    | schedule delay other =>
      cases hslot
      exact ⟨(state.run actions).clock, delay, ⟨actions, [], rfl, rfl⟩, rfl⟩
    | cancel => cases hslot
    | poll =>
      rcases (state.run actions).timer.poll_cases (state.run actions).clock.now with ⟨_, -, hpoll⟩ | hpoll
      · rw [TimedTimer.step, hpoll] at hslot
        cases hslot
      · rw [TimedTimer.step, hpoll] at hslot
        exact hwaited hslot
    | advance span => exact hwaited hslot

/-- Tasks that are due stay due exactly if the clock does not show an earlier time in the end. -/
theorem keepsDueTasks_iff [Nonempty α] {clock : Clock} {spans : List UInt64} :
    KeepsDueTasks α clock spans ↔ clock.now ≤ (clock.after spans).now := by
  constructor
  · intro hkeeps
    obtain ⟨task⟩ := ‹Nonempty α›
    -- A task without a delay is due at once, and not before.
    have hslot : (run ⟨clock, .idle⟩ [.schedule 0 task]).timer.slot = some ⟨clock.now, task⟩ := rfl
    have hpoll := (poll_iff_due hslot).mpr (Nat.le_refl clock.now)
    exact (poll_after_iff_due hslot spans).mp (hkeeps clock [.schedule 0 task] task rfl hpoll)
  · rintro hforward origin actions task state rfl hpoll
    obtain ⟨due, hslot, hdue⟩ := exists_due_of_poll hpoll
    exact (poll_after_iff_due hslot spans).mpr (Nat.le_trans hdue hforward)

/-- Suppose that polling would hand back a task, after any actions on an idle timer. Then one of the actions scheduled
the task. Its due time is what the clock showed at that moment and the delay, whose sum has room in a duration.
After further spans of time

* the clock shows its time and the spans, but for what has no room in 64 bits;
* the task is polled exactly if this is not before its due time, which durations and numbers of milliseconds agree on;
  before that, polling does nothing and the task waits;
* it is polled if the clock never went back, and the clock never went back exactly if its time and the spans have room
  in 64 bits;
* all tasks that are due now, whichever timers they wait in, are still due exactly if the clock does not show an earlier
  time than now.

The task is polled after any spans exactly if it was due from time zero on. -/
theorem due_task_stays_due_iff_of_run (origin : Clock) (actions : List (TimerAction α)) (task : α)
    (hpoll : ((run ⟨origin, .idle⟩ actions).step .poll).1 = some task) :
    let start : TimedTimer α := ⟨origin, .idle⟩
    let state := start.run actions
    ∃ (moment : Clock) (delay : UInt64) (deadline : Duration),
      let due := moment.now + delay.toNat
      start.SchedulesAt actions moment delay task ∧ state.timer.slot = some ⟨due, task⟩ ∧ due ≤ state.clock.now ∧
        (Duration.ofMillis moment.elapsed).add? (.ofMillis delay) = some deadline ∧
        (∀ spans : List UInt64,
          let later := state.run (spans.map .advance)
          later.clock.now = (state.clock.now + (spans.map UInt64.toNat).sum) % UInt64.size ∧
            (deadline.le (.ofMillis later.clock.elapsed) = true ↔ due ≤ later.clock.now) ∧
            ((later.step .poll).1 = some task ↔ due ≤ later.clock.now) ∧
            (later.clock.now < due → later.step .poll = (none, later)) ∧
            (state.clock.NeverGoesBack spans → (later.step .poll).1 = some task) ∧
            (state.clock.NeverGoesBack spans ↔
              state.clock.now + (spans.map UInt64.toNat).sum < UInt64.size) ∧
            (KeepsDueTasks α state.clock spans ↔ state.clock.now ≤ later.clock.now)) ∧
        ((∀ spans : List UInt64, ((state.run (spans.map .advance)).step .poll).1 = some task) ↔ due = 0) := by
  intro start state
  have : Nonempty α := ⟨task⟩
  obtain ⟨_, hslot, hdue⟩ := exists_due_of_poll hpoll
  obtain ⟨moment, delay, hscheduled, rfl⟩ := exists_schedulesAt_of_slot rfl hslot
  obtain ⟨_, deadline, -, rfl, hsum, -, hexact⟩ := exists_deadline (⟨moment, .idle⟩ : TimedTimer α) delay task
  refine ⟨moment, delay, deadline, hscheduled, hslot, hdue, hsum, ?_, ?_⟩
  · intro spans later
    have hlater : later = { state with clock := state.clock.after spans } := run_advances state spans
    have hclock : later.clock = state.clock.after spans := congrArg TimedTimer.clock hlater
    have hwaits : later.timer.slot = some ⟨moment.now + delay.toNat, task⟩ := by
      rw [hlater]
      exact hslot
    have htime : later.clock.now = (state.clock.now + (spans.map UInt64.toNat).sum) % UInt64.size := by
      rw [hclock, Clock.now_after]
    have hkept (hforward : state.clock.NeverGoesBack spans) : (later.step .poll).1 = some task := by
      have hpassed : state.clock.now ≤ (state.clock.after spans).now :=
        hforward [] spans (List.prefix_refl spans)
      exact (poll_after_iff_due hslot spans).mpr (Nat.le_trans hdue hpassed)
    have hall : KeepsDueTasks α state.clock spans ↔ state.clock.now ≤ later.clock.now := by
      rw [hclock]
      exact keepsDueTasks_iff
    exact ⟨htime, (hexact later.clock).1, poll_iff_due hwaits, step_poll_of_early hwaits, hkept,
      Clock.neverGoesBack_iff, hall⟩
  · constructor
    · intro halways
      obtain ⟨span, hzero⟩ := state.clock.exists_now_after_eq_zero
      have hleast := (poll_after_iff_due hslot [span]).mp (halways [span])
      rw [hzero] at hleast
      exact Nat.le_zero.mp hleast
    · intro hzero spans
      refine (poll_after_iff_due hslot spans).mpr ?_
      rw [hzero]
      exact Nat.zero_le _

/-- A flush that is due at 16 is polled up to the last moment that the clock can show. A millisecond later the clock
starts over, the flush waits again, and 16 milliseconds after that it is due once more. -/
theorem due_flush_polled_until_clock_starts_over :
    let actions : List (TimerAction String) := [.schedule 16 "flush", .advance 16]
    let state := run ⟨.start, .idle⟩ actions
    let spans : List UInt64 := [9223372036854775808, 9223372036854775791]
    let last := state.run (spans.map .advance)
    let restarted := state.run ((spans ++ [1]).map .advance)
    let again := state.run ((spans ++ [1, 16]).map .advance)
    (state.step .poll).1 = some "flush" ∧ state.clock.NeverGoesBack spans ∧
      last.clock.now = 18446744073709551615 ∧ (last.step .poll).1 = some "flush" ∧
      ¬state.clock.NeverGoesBack (spans ++ [1]) ∧ restarted.clock.now = 0 ∧
      restarted.step .poll = (none, restarted) ∧ (again.step .poll).1 = some "flush" := by
  intro actions state spans last restarted again
  have hpoll : (state.step .poll).1 = some "flush" := by decide +kernel
  obtain ⟨moment, delay, _, -, hslot, -, -, hspans, -⟩ :=
    due_task_stays_due_iff_of_run .start actions "flush" hpoll
  have hdue : moment.now + delay.toNat = 16 := by
    have hwaits : state.timer.slot = some ⟨16, "flush"⟩ := by decide +kernel
    exact congrArg Scheduled.due (Option.some.inj (hslot.symm.trans hwaits))
  rw [hdue] at hspans
  obtain ⟨-, -, -, -, hkept, hroom, -⟩ := hspans spans
  obtain ⟨-, -, -, hearly, -, hnoRoom, -⟩ := hspans (spans ++ [1])
  obtain ⟨-, -, hagain, -⟩ := hspans (spans ++ [1, 16])
  have hforward : state.clock.NeverGoesBack spans := hroom.mpr (by decide +kernel)
  have hback : ¬state.clock.NeverGoesBack (spans ++ [1]) := mt hnoRoom.mp (by decide +kernel)
  have hrestarted : restarted.clock.now = 0 := by decide +kernel
  exact ⟨hpoll, hforward, by decide +kernel, hkept hforward, hback, hrestarted, hearly (by decide +kernel),
    hagain.mpr (by decide +kernel)⟩

/-- A flush that is due is not polled any more after the clock was advanced by the longest span: it shows 15 then, a
millisecond less than before. -/
theorem due_flush_not_polled_after_longest_span :
    let state : TimedTimer String := run ⟨.start, .idle⟩ [.schedule 16 "flush", .advance 16]
    let later := state.run [.advance 18446744073709551615]
    (state.step .poll).1 = some "flush" ∧ (later.step .poll).1 = none ∧
      state.clock.now = 16 ∧ later.clock.now = 15 ∧ later.timer.remaining? later.clock.now = some 1 := by
  decide +kernel

end TimedTimer

end SiteBuilder
