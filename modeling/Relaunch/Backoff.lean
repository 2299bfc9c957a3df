import Relaunch.Duration

/-!
# Backoff — growing delays between attempts

A policy has a first delay and a ceiling.  Each delay is twice the one before, but never above the
ceiling; a first delay of zero is followed by one millisecond, or by the ceiling if that is less.

There is no limit on the number of attempts.
-/

namespace Relaunch

structure Backoff where
  initial : Duration
  ceiling : Duration
deriving DecidableEq

namespace Backoff

/-- **The policy of two bounds**, the ceiling raised to the first delay where it lies below it. -/
def ofBounds (initial ceiling : Duration) : Backoff := ⟨initial, max ceiling initial⟩

/-- The delay after a delay. -/
def next (ceiling current : Duration) : Duration :=
  if current.isZero then min ceiling (Duration.ofMillis 1)
  else if current.double > ceiling then ceiling
  else current.double

/-- The delay before the `n`-th retry, counted from zero. -/
def delay (policy : Backoff) : Nat → Duration
  | 0 => policy.initial
  | n + 1 => next policy.ceiling (policy.delay n)

end Backoff

end Relaunch
