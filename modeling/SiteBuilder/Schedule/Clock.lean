/-!
# Clocks

Time is a number of milliseconds since an arbitrary origin. A `Clock` moves only when it is told to,
and keeps its time in 64 bits: advanced beyond them, it starts over.
-/

namespace SiteBuilder

/-- A clock that is advanced by hand. -/
structure Clock where
  /-- The milliseconds that have passed. -/
  elapsed : UInt64
  deriving DecidableEq

namespace Clock

/-- A clock at its origin. -/
def start : Clock := ⟨0⟩

/-- The time a clock shows. -/
def now (clock : Clock) : Nat := clock.elapsed.toNat

/-- Let time pass. -/
def advance (clock : Clock) (span : UInt64) : Clock := ⟨clock.elapsed + span⟩

/-- Without a wrap-around, time adds up. -/
theorem now_advance {clock : Clock} {span : UInt64} (h : clock.now + span.toNat < UInt64.size) :
    (clock.advance span).now = clock.now + span.toNat := by
  simp only [now, advance, UInt64.toNat_add] at *
  exact Nat.mod_eq_of_lt h

end Clock

end SiteBuilder
