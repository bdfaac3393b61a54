/-!
# Debounce timers

A `Timer` holds at most one task and the time it becomes due. Scheduling again replaces both, so only
the latest of a burst of tasks is left and its delay counts from the latest call. Nothing happens by
itself: whoever owns the timer polls it.
-/

namespace SiteBuilder

universe u

/-- A task and the time it becomes due. -/
structure Scheduled (α : Type u) where
  /-- The time from which on the task is due. -/
  due : Nat
  /-- What is to be done. -/
  task : α
  deriving DecidableEq

/-- At most one scheduled task. -/
structure Timer (α : Type u) where
  /-- The task that waits. -/
  slot : Option (Scheduled α)
  deriving DecidableEq

namespace Timer

variable {α : Type u}

/-- A timer without a task. -/
def idle : Timer α := ⟨none⟩

/-- The task that waits. -/
def task? (timer : Timer α) : Option α := timer.slot.map (·.task)

/-- Whether a task waits. -/
def isPending (timer : Timer α) : Bool := timer.slot.isSome

/-- Let a task become due after a delay. The task it replaces is handed back. -/
def schedule (timer : Timer α) (now delay : Nat) (task : α) : Option α × Timer α :=
  (timer.task?, ⟨some ⟨now + delay, task⟩⟩)

/-- Hand back the task that waits without waiting for it. -/
def cancel (timer : Timer α) : Option α × Timer α := (timer.task?, idle)

/-- Hand back the task that waits if it is due. -/
def poll (timer : Timer α) (now : Nat) : Option α × Timer α :=
  match timer.slot with
  | some scheduled => if scheduled.due ≤ now then (some scheduled.task, idle) else (none, timer)
  | none => (none, timer)

/-- The time left until the task is due; zero when it is overdue. -/
def remaining? (timer : Timer α) (now : Nat) : Option Nat := timer.slot.map (·.due - now)

/-- Polling hands back the task that waits and leaves none, or it does nothing. -/
theorem poll_cases (timer : Timer α) (now : Nat) :
    (∃ task, timer.task? = some task ∧ timer.poll now = (some task, idle)) ∨
      timer.poll now = (none, timer) := by
  unfold poll task?
  cases timer.slot with
  | none => exact Or.inr rfl
  | some scheduled =>
    by_cases hdue : scheduled.due ≤ now
    · exact Or.inl ⟨scheduled.task, rfl, by simp only [hdue, ↓reduceIte]⟩
    · exact Or.inr (by simp only [hdue, ↓reduceIte])

/-- A task is handed back by polling exactly from its due time on. -/
theorem poll_eq_some_iff {timer : Timer α} {now : Nat} {task : α} :
    (timer.poll now).1 = some task ↔ ∃ due, timer.slot = some ⟨due, task⟩ ∧ due ≤ now := by
  unfold poll
  constructor
  · intro h
    split at h
    · next scheduled eq =>
      split at h
      · next due => exact ⟨scheduled.due, by cases h; exact eq, due⟩
      · cases h
    · cases h
  · rintro ⟨due, eq, le⟩
    rw [eq]
    simp [le]

end Timer

end SiteBuilder
