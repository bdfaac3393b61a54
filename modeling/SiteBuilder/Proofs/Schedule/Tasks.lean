import SiteBuilder.Proofs.Schedule.Duration
import SiteBuilder.Schedule.Timer

/-!
# What becomes of scheduled tasks

Whatever is done with a timer, the tasks that are scheduled come out of it in their order, each once and by the call
that displaces it: a later task takes its place, it is cancelled, or it is polled when it is due. Only the last one may
still be waiting, and it becomes due at the very time that its delay says.

The clock is taken not to start over. It counts in 64 bits, and so do delays; their sums have room for more.
-/

namespace SiteBuilder

universe u

/-- One thing that happens to a timer. Delays and spans are numbers of milliseconds. -/
inductive TimerAction (α : Type u) where
  | schedule (delay : UInt64) (task : α)
  | cancel
  | poll
  /-- Time passes. -/
  | advance (span : UInt64)

/-- A task that was scheduled. -/
structure Booking (α : Type u) where
  /-- When it was scheduled. -/
  time : Nat
  delay : UInt64
  task : α

namespace Booking

variable {α : Type u}

/-- The time from which on the task is due. -/
def due (booking : Booking α) : Nat := booking.time + booking.delay.toNat

/-- The task as it waits. -/
def scheduled (booking : Booking α) : Scheduled α := ⟨booking.due, booking.task⟩

end Booking

namespace TimerAction

variable {α : Type u}

/-- The time that passes with an action. -/
def span : TimerAction α → Nat
  | .advance span => span.toNat
  | _ => 0

/-- The task that is scheduled by an action. -/
def booking? (now : Nat) : TimerAction α → Option (Booking α)
  | .schedule delay task => some ⟨now, delay, task⟩
  | _ => none

/-- The time that passes with actions. -/
def spent : List (TimerAction α) → Nat
  | [] => 0
  | action :: rest => action.span + spent rest

/-- The tasks that are scheduled by actions, in their order, if the actions start at a time. -/
def bookings : Nat → List (TimerAction α) → List (Booking α)
  | _, [] => []
  | now, action :: rest => (action.booking? now).toList ++ bookings (now + action.span) rest

end TimerAction

open TimerAction (spent bookings)

/-- A timer and the clock it goes by. -/
structure TimedTimer (α : Type u) where
  clock : Clock
  timer : Timer α

namespace TimedTimer

variable {α : Type u} {state : TimedTimer α} {action : TimerAction α}

/-- Let one action happen. It may hand back a task. -/
def step (state : TimedTimer α) : TimerAction α → Option α × TimedTimer α
  | .schedule delay task =>
    let (superseded, timer) := state.timer.schedule state.clock.now delay.toNat task
    (superseded, { state with timer })
  | .cancel =>
    let (cancelled, timer) := state.timer.cancel
    (cancelled, { state with timer })
  | .poll =>
    let (polled, timer) := state.timer.poll state.clock.now
    (polled, { state with timer })
  | .advance span => (none, { state with clock := state.clock.advance span })

/-- Let actions happen one after the other. -/
def run (state : TimedTimer α) (actions : List (TimerAction α)) : TimedTimer α :=
  actions.foldl (fun state action => (state.step action).2) state

/-- The tasks that are handed back by actions, in their order. -/
def handedBack (state : TimedTimer α) : List (TimerAction α) → List α
  | [] => []
  | action :: rest => (state.step action).1.toList ++ (state.step action).2.handedBack rest

/-- Tasks that were scheduled are accounted for: those that were handed back come first, in the same order, and what
is left is the task that waits. -/
def Accounted (state : TimedTimer α) (booked : List (Booking α)) (left : List α) : Prop :=
  ∃ (gone : List (Booking α)) (waiting : Option (Booking α)), booked = gone ++ waiting.toList ∧
    left = gone.map (·.task) ∧ state.timer.slot = waiting.map Booking.scheduled

/-- The time of the clock is that which was spent. -/
theorem now_step (h : state.clock.now + action.span < UInt64.size) :
    (state.step action).2.clock.now = state.clock.now + action.span := by
  cases action with
  | advance span => exact Clock.now_advance h
  | schedule delay task => rfl
  | cancel => rfl
  | poll => rfl

/-- An action keeps tasks accounted for. -/
theorem Accounted.step {booked : List (Booking α)} {left : List α} (h : state.Accounted booked left)
    (action : TimerAction α) :
    (state.step action).2.Accounted (booked ++ (action.booking? state.clock.now).toList)
      (left ++ (state.step action).1.toList) := by
  obtain ⟨gone, waiting, rfl, rfl, hslot⟩ := h
  have htask : state.timer.task? = waiting.map (·.task) := by
    rw [Timer.task?, hslot, Option.map_map]
    rfl
  have hleaves : (gone ++ waiting.toList).map (·.task) = gone.map (·.task) ++ (waiting.map (·.task)).toList := by
    cases waiting <;> simp
  -- Whatever hands a task back hands back the one that waits, so it goes behind those that are gone.
  cases action with
  | schedule delay task =>
    refine ⟨gone ++ waiting.toList, some ⟨state.clock.now, delay, task⟩, rfl, ?_, rfl⟩
    rw [hleaves, ← htask]
    rfl
  | cancel =>
    refine ⟨gone ++ waiting.toList, none, rfl, ?_, rfl⟩
    rw [hleaves, ← htask]
    rfl
  | poll =>
    rcases Timer.poll_cases state.timer state.clock.now with ⟨task, hwaits, hpoll⟩ | hpoll
    · refine ⟨gone ++ waiting.toList, none, rfl, ?_, ?_⟩
      · rw [hleaves, ← htask, hwaits, TimedTimer.step, hpoll]
      · rw [TimedTimer.step, hpoll]
        rfl
    · refine ⟨gone, waiting, by simp [TimerAction.booking?], ?_, ?_⟩
      · simp [TimedTimer.step, hpoll]
      · rw [TimedTimer.step, hpoll]
        exact hslot
  | advance span => exact ⟨gone, waiting, by simp [TimerAction.booking?], by simp [TimedTimer.step], hslot⟩

/-- A run in which the clock does not start over keeps tasks accounted for. -/
theorem Accounted.run {booked : List (Booking α)} {left : List α} (h : state.Accounted booked left)
    {actions : List (TimerAction α)} (hclock : state.clock.now + spent actions < UInt64.size) :
    (state.run actions).clock.now = state.clock.now + spent actions ∧
      (state.run actions).Accounted (booked ++ bookings state.clock.now actions)
        (left ++ state.handedBack actions) := by
  -- What was scheduled and handed back before the actions is carried along.
  induction actions generalizing state booked left with
  | nil =>
    simp only [bookings, handedBack, List.append_nil]
    exact ⟨rfl, h⟩
  | cons action rest ih =>
    rw [spent] at hclock ⊢
    have hnow : (state.step action).2.clock.now = state.clock.now + action.span := now_step (by omega)
    have hrest := ih (h.step action) (by rw [hnow]; omega)
    rw [hnow, List.append_assoc, List.append_assoc] at hrest
    rw [bookings, handedBack, ← Nat.add_assoc]
    exact hrest

/-- The task that waits is polled exactly if it is due. -/
theorem poll_of_slot {waiting : Option (Booking α)} (hslot : state.timer.slot = waiting.map Booking.scheduled) :
    (state.step .poll).1 = (waiting.filter (·.due ≤ state.clock.now)).map (·.task) := by
  cases waiting with
  | none => simp [TimedTimer.step, Timer.poll, hslot]
  | some booking =>
    by_cases hdue : booking.due ≤ state.clock.now <;>
      simp [TimedTimer.step, Timer.poll, hslot, Booking.scheduled, Option.filter_some, hdue]

/-- The time of a timer and the delay of a task have a sum that is the time from which on the task is due, and neither
comparing it with a time nor taking a time from it loses anything. -/
theorem exists_deadline (state : TimedTimer α) (delay : UInt64) (task : α) :
    ∃ due deadline, (state.step (.schedule delay task)).2.timer.slot = some ⟨due, task⟩ ∧
      due = state.clock.now + delay.toNat ∧
      (Duration.ofMillis state.clock.elapsed).add? (.ofMillis delay) = some deadline ∧ deadline.IsMillis due ∧
      ∀ later : Clock, (deadline.le (.ofMillis later.elapsed) = true ↔ due ≤ later.now) ∧
        (deadline.sub (.ofMillis later.elapsed)).IsMillis (due - later.now) := by
  obtain ⟨deadline, hsum, hmillis⟩ := Duration.exists_add?_ofMillis state.clock.elapsed delay
  refine ⟨_, deadline, rfl, rfl, hsum, hmillis, fun later => ?_⟩
  have hlater : (Duration.ofMillis later.elapsed).IsMillis later.now := Duration.toNanos_ofMillis later.elapsed
  exact ⟨hmillis.le_iff hlater, hmillis.sub hlater⟩

/-- After actions on an idle timer whose clock does not start over,

* the clock shows the time that has passed;
* all tasks that were scheduled were handed back in their order, each once, but for the last one if it waits. It is
  polled exactly if the time is at least that of its scheduling and its delay, and the time left is exact;
* another task can be scheduled with every delay: the sum of the time and the delay has room, and it is exact. -/
theorem tasks_leave_in_order (clock : Clock) (actions : List (TimerAction α))
    (hclock : clock.now + spent actions < UInt64.size) :
    let start : TimedTimer α := ⟨clock, .idle⟩
    let state := start.run actions
    let now := clock.now + spent actions
    state.clock.now = now ∧
      (∃ (gone : List (Booking α)) (waiting : Option (Booking α)),
        bookings clock.now actions = gone ++ waiting.toList ∧ start.handedBack actions = gone.map (·.task) ∧
          state.timer.task? = waiting.map (·.task) ∧
          (state.step .poll).1 =
            (waiting.filter fun booking => booking.time + booking.delay.toNat ≤ now).map (·.task) ∧
          state.timer.remaining? state.clock.now =
            waiting.map fun booking => booking.time + booking.delay.toNat - now) ∧
      ∀ delay task, ∃ due deadline, (state.step (.schedule delay task)).2.timer.slot = some ⟨due, task⟩ ∧
        due = state.clock.now + delay.toNat ∧
        (Duration.ofMillis state.clock.elapsed).add? (.ofMillis delay) = some deadline ∧ deadline.IsMillis due ∧
        ∀ later : Clock, (deadline.le (.ofMillis later.elapsed) = true ↔ due ≤ later.now) ∧
          (deadline.sub (.ofMillis later.elapsed)).IsMillis (due - later.now) := by
  intro start state now
  have hstart : start.Accounted [] [] := ⟨[], none, rfl, rfl, rfl⟩
  obtain ⟨hnow, gone, waiting, hbooked, hleft, hslot⟩ := hstart.run hclock
  refine ⟨hnow, ⟨gone, waiting, hbooked, hleft, ?_, ?_, ?_⟩, state.exists_deadline⟩
  · rw [Timer.task?, hslot, Option.map_map]
    rfl
  · rw [poll_of_slot hslot, hnow]
    rfl
  · rw [Timer.remaining?, hslot, Option.map_map, hnow]
    rfl

/-- Three tasks leave up to the last moment that the clock can show: two are superseded, though the second one would
not be due for ages, and the third one is polled in time. A fourth one can be scheduled with the longest delay. -/
theorem three_tasks_leave_before_last_moment :
    let start : TimedTimer String := ⟨⟨18446744073709551600⟩, .idle⟩
    let actions := [.schedule 0 "first", .schedule 18446744073709551615 "second", .advance 5, .schedule 10 "third",
      .poll, .advance 10, .poll]
    start.clock.now + spent actions < UInt64.size ∧
      (start.run actions).clock.now = 18446744073709551615 ∧
      start.handedBack actions = ["first", "second", "third"] ∧
      ∃ deadline, (Duration.ofMillis (start.run actions).clock.elapsed).add? (.ofMillis 18446744073709551615) =
        some deadline ∧ deadline.IsMillis 36893488147419103230 := by
  intro start actions
  have hclock : start.clock.now + spent actions < UInt64.size := by decide +kernel
  have hend : start.clock.now + spent actions = 18446744073709551615 := by decide +kernel
  have hlongest : (18446744073709551615 : UInt64).toNat = 18446744073709551615 := by decide +kernel
  obtain ⟨hnow, -, hfurther⟩ := tasks_leave_in_order start.clock actions hclock
  obtain ⟨due, deadline, -, hdue, hsum, hmillis, -⟩ := hfurther 18446744073709551615 "fourth"
  rw [hdue, hnow, hend, hlongest] at hmillis
  exact ⟨hclock, hnow.trans hend, by decide +kernel, deadline, hsum, hmillis⟩

end TimedTimer

end SiteBuilder
