/-!
# Timer — how long a wait really takes

Time is counted in whole milliseconds.  A timer is set to a length and is over when the clock of the
machine shows the time at its end: it runs for its length, rounded up to whole milliseconds.  Where
the clock has no such time to show, the timer runs for thirty years instead.

How far a clock reaches is the machine's own affair (`Clock`).  The one thing that timers rely on is
that it can show any time of the next thirty years.
-/

namespace Relaunch

/-- Thirty years of 365 days, in milliseconds. -/
def Timer.thirtyYears : Nat := 946080000000

/-- **The clock of a machine**: which times to come it can show. -/
class Clock where
  /-- Whether it can show the time so many nanoseconds after a millisecond. -/
  shows (now nanos : Nat) : Bool
  /-- It can show any time of the next thirty years. -/
  shows_of_le (now : Nat) {nanos : Nat} (near : nanos ≤ Timer.thirtyYears * 1000000) :
    shows now nanos = true

namespace Clock

/-- The clock that reaches no further than it must.  A run is by this one where none is given. -/
instance nearest : Clock where
  shows _ nanos := nanos ≤ Timer.thirtyYears * 1000000
  shows_of_le _ _ near := decide_eq_true near

end Clock

namespace Timer

variable [Clock]

/-- **How long a timer set to so many nanoseconds runs**, from a time on. -/
def run (nanos now : Nat) : Nat :=
  if Clock.shows now nanos then (nanos + 999999) / 1000000 else thirtyYears

/-- A timer set to whole milliseconds. -/
def span (ms : Nat) (now : Nat := 0) : Nat := run (ms * 1000000) now

theorem run_of_shows {nanos now : Nat} (shown : Clock.shows now nanos = true) :
    run nanos now = (nanos + 999999) / 1000000 := if_pos shown

theorem run_of_not_shows {nanos now : Nat} (beyond : Clock.shows now nanos = false) :
    run nanos now = thirtyYears := if_neg (by simp [beyond])

/-- A timer of up to thirty years runs for its length. -/
theorem run_of_le {nanos : Nat} (near : nanos ≤ thirtyYears * 1000000) (now : Nat) :
    run nanos now = (nanos + 999999) / 1000000 := run_of_shows (Clock.shows_of_le now near)

/-- No timer runs for longer than its length. -/
theorem run_le (nanos now : Nat) : run nanos now ≤ (nanos + 999999) / 1000000 := by
  unfold run
  split
  · exact Nat.le_refl _
  · rename_i beyond
    have far := mt (Clock.shows_of_le now) beyond
    omega

end Timer

end Relaunch
