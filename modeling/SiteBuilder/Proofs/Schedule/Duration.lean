import SiteBuilder.Schedule.Clock

/-!
# Durations

A time is kept as a duration of whole seconds, in 64 bits, and of nanoseconds beyond them. A sum is checked and may
have no room there, a difference stops at zero, and durations are compared by their seconds first.

Durations that are numbers of milliseconds are far from the limit: no sum of two of them fails, whatever 64-bit numbers
they are. So times can be reckoned with as natural numbers of milliseconds.
-/

namespace SiteBuilder

/-- The nanoseconds of a second. -/
def nanosPerSecond : Nat := 1000000000

/-- The nanoseconds of a millisecond. -/
def nanosPerMilli : Nat := 1000000

/-- A span of time. -/
structure Duration where
  seconds : UInt64
  nanos : Fin nanosPerSecond
  deriving DecidableEq

namespace Duration

/-- All nanoseconds of a duration. -/
def toNanos (span : Duration) : Nat := span.seconds.toNat * nanosPerSecond + span.nanos

/-- No time at all. -/
def zero : Duration := ⟨0, ⟨0, by decide⟩⟩

/-- A number of milliseconds. -/
def ofMillis (millis : UInt64) : Duration :=
  ⟨millis / 1000, ⟨(millis % 1000).toNat * nanosPerMilli, by
    have : (millis % 1000).toNat < 1000 := by simpa using Nat.mod_lt _ (by decide)
    unfold nanosPerMilli nanosPerSecond
    omega⟩⟩

/-- The sum of two durations, if there is room for it. -/
def add? (span other : Duration) : Option Duration :=
  let nanos := span.nanos.val + other.nanos.val
  let seconds := span.seconds.toNat + other.seconds.toNat + nanos / nanosPerSecond
  if seconds < UInt64.size then
    some ⟨.ofNat seconds, ⟨nanos % nanosPerSecond, Nat.mod_lt _ (by decide)⟩⟩
  else none

/-- Whether a duration is no longer than another one. -/
def le (span other : Duration) : Bool :=
  span.seconds < other.seconds || (span.seconds = other.seconds && span.nanos ≤ other.nanos)

/-- What a duration has over another one, if it is longer. -/
def sub (span other : Duration) : Duration :=
  if span.le other then zero
  else if h : other.nanos ≤ span.nanos then
    ⟨span.seconds - other.seconds, ⟨span.nanos - other.nanos, by omega⟩⟩
  else ⟨span.seconds - other.seconds - 1, ⟨nanosPerSecond + span.nanos - other.nanos, by omega⟩⟩

variable {span other : Duration}

/-- Milliseconds are kept as they are. -/
@[simp]
theorem toNanos_ofMillis (millis : UInt64) : (ofMillis millis).toNanos = millis.toNat * nanosPerMilli := by
  simp only [toNanos, ofMillis, nanosPerSecond, nanosPerMilli, UInt64.toNat_div, UInt64.toNat_mod]
  have hparts := Nat.div_add_mod millis.toNat 1000
  simp
  omega

/-- A sum is exact. -/
theorem toNanos_of_add? {sum : Duration} (h : span.add? other = some sum) :
    sum.toNanos = span.toNanos + other.toNanos := by
  rw [add?] at h
  split at h
  · next hroom =>
    cases h
    have hnanos := Nat.div_add_mod (span.nanos.val + other.nanos.val) nanosPerSecond
    simp only [toNanos, UInt64.toNat_ofNat_of_lt' hroom]
    rw [Nat.add_mul, Nat.add_mul]
    rw [Nat.mul_comm] at hnanos
    omega
  · cases h

/-- A sum fails exactly if it has more seconds than there is room for. -/
theorem add?_isSome_iff : (span.add? other).isSome ↔ span.toNanos + other.toNanos < UInt64.size * nanosPerSecond := by
  have hrest := Nat.mod_lt (span.nanos.val + other.nanos.val) (show 0 < nanosPerSecond by decide)
  have hnanos := Nat.div_add_mod (span.nanos.val + other.nanos.val) nanosPerSecond
  rw [add?]
  dsimp only [toNanos]
  unfold nanosPerSecond at *
  split
  · simp only [Option.isSome_some, true_iff]
    omega
  · simp only [Option.isSome_none, Bool.false_eq_true, false_iff]
    omega

/-- Comparing durations is comparing their nanoseconds. -/
theorem le_iff : span.le other = true ↔ span.toNanos ≤ other.toNanos := by
  have hspan := span.nanos.isLt
  have hother := other.nanos.isLt
  simp only [le, toNanos, Bool.or_eq_true, Bool.and_eq_true, decide_eq_true_eq, UInt64.lt_iff_toNat_lt,
    ← UInt64.toNat_inj, Fin.le_def]
  unfold nanosPerSecond at *
  omega

/-- A difference is exact, and zero if there is none. -/
theorem toNanos_sub (span other : Duration) : (span.sub other).toNanos = span.toNanos - other.toNanos := by
  rw [sub]
  split
  · next hle =>
    rw [Nat.sub_eq_zero_of_le (le_iff.mp hle)]
    rfl
  · next hle =>
    have hlonger := Nat.lt_of_not_le (mt le_iff.mpr hle)
    have hspan := span.nanos.isLt
    have hother := other.nanos.isLt
    dsimp only [toNanos] at hlonger ⊢
    unfold nanosPerSecond at *
    have hseconds : other.seconds ≤ span.seconds := by
      rw [UInt64.le_iff_toNat_le]
      omega
    split
    · dsimp only
      rw [UInt64.toNat_sub_of_le _ _ hseconds]
      omega
    · next hborrow =>
      have hborrows : ¬other.nanos.val ≤ span.nanos.val := hborrow
      have hone : 1 ≤ span.seconds - other.seconds := by
        rw [UInt64.le_iff_toNat_le, UInt64.toNat_sub_of_le _ _ hseconds]
        simp only [UInt64.toNat_one]
        omega
      rw [UInt64.toNat_sub_of_le _ _ hone, UInt64.toNat_sub_of_le _ _ hseconds]
      simp only [UInt64.toNat_one]
      omega

/-! ## Milliseconds -/

/-- A duration is that of a number of milliseconds, which may have more than 64 bits. -/
def IsMillis (span : Duration) (millis : Nat) : Prop := span.toNanos = millis * nanosPerMilli

variable {millis others : Nat}

/-- Durations of milliseconds are compared like their numbers. -/
theorem IsMillis.le_iff (h : span.IsMillis millis) (hother : other.IsMillis others) :
    span.le other = true ↔ millis ≤ others := by
  rw [Duration.le_iff, h, hother]
  exact Nat.mul_le_mul_right_iff (by decide)

/-- The difference of durations of milliseconds is that of their numbers. -/
theorem IsMillis.sub (h : span.IsMillis millis) (hother : other.IsMillis others) :
    (span.sub other).IsMillis (millis - others) := by
  rw [IsMillis, toNanos_sub, h, hother, Nat.sub_mul]

/-- Two 64-bit numbers of milliseconds always have a sum. -/
theorem exists_add?_ofMillis (millis others : UInt64) :
    ∃ sum, (ofMillis millis).add? (ofMillis others) = some sum ∧ sum.IsMillis (millis.toNat + others.toNat) := by
  have hroom : (ofMillis millis).toNanos + (ofMillis others).toNanos < UInt64.size * nanosPerSecond := by
    have hmillis := millis.toNat_lt_size
    have hothers := others.toNat_lt_size
    rw [toNanos_ofMillis, toNanos_ofMillis]
    unfold nanosPerMilli nanosPerSecond
    omega
  obtain ⟨sum, hsum⟩ := Option.isSome_iff_exists.mp (add?_isSome_iff.mpr hroom)
  refine ⟨sum, hsum, ?_⟩
  rw [IsMillis, toNanos_of_add? hsum, toNanos_ofMillis, toNanos_ofMillis, Nat.add_mul]

end Duration

end SiteBuilder
