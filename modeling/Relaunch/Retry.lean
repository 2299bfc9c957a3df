import Relaunch.Backoff
import Relaunch.Registry.Fault

/-!
# Retry — attempts until one is answered or given up

A retry loop makes attempts one after another.  After a failed attempt that calls for a retry it
waits, a longer time after each, and tries again; after any other failed attempt it gives up.  The
loop is a state (`Retry`) that takes one reply at a time: `Retry.take` says what follows from it.

* `Retry.delay_eq` — the delay after the `n`-th attempt is the policy's `n`-th delay.
-/

namespace Relaunch

/-- **Where a retry loop stands**: the number of the attempt under way, and the delay that would
follow its failure. -/
structure Retry where
  attempt : Nat
  delay : Duration
deriving DecidableEq

/-- An operation given up: the error of the last attempt, whether it was fatal, and the number of
attempts made. -/
structure GivenUp (ε : Type) where
  error : ε
  isFatal : Bool
  attempts : Nat
deriving DecidableEq, Repr

namespace Retry

/-- The first attempt under a policy. -/
def first (policy : Backoff) : Retry := ⟨1, policy.initial⟩

/-- The attempt after a failed one. -/
def again (policy : Backoff) (r : Retry) : Retry :=
  ⟨r.attempt + 1, Backoff.next policy.ceiling r.delay⟩

/-- What follows from the reply to an attempt. -/
inductive Next (ε α : Type) where
  | done (a : α)
  | stop (e : GivenUp ε)
  /-- A wait of `r.delay`, and then the next attempt. -/
  | wait (error : ε)

/-- **What a loop does with a reply.** -/
def take (classify : ε → Disposition) (r : Retry) : Except ε α → Next ε α
  | .ok a => .done a
  | .error e =>
    match classify e with
    | .retry => .wait e
    | .abort => .stop ⟨e, false, r.attempt⟩
    | .fatal => .stop ⟨e, true, r.attempt⟩

/-! ## Whole runs -/

/-- A sign of life of a retry loop. -/
inductive Sign (ε : Type) where
  | call (attempt : Nat)
  | classify (attempt : Nat)
  | retry (attempt : Nat) (delay : Duration) (error : ε)

/-- **The run of a loop over replies**, from where it stands; `last` is the answer when no reply is
left. -/
def run (policy : Backoff) (classify : ε → Disposition) (last : α) :
    Retry → List (Except ε α) → List (Sign ε) × Except (GivenUp ε) α
  | r, [] => ([.call r.attempt], .ok last)
  | r, reply :: replies =>
    match r.take classify reply with
    | .done a => ([.call r.attempt], .ok a)
    | .stop e => ([.call r.attempt, .classify r.attempt], .error e)
    | .wait e =>
      let (signs, result) := run policy classify last (r.again policy) replies
      (.call r.attempt :: .classify r.attempt :: .retry r.attempt r.delay e :: signs, result)

/-- The loop at its `n + 1`-st attempt. -/
def nth (policy : Backoff) : Nat → Retry
  | 0 => first policy
  | n + 1 => (nth policy n).again policy

theorem attempt_nth (policy : Backoff) (n : Nat) : (nth policy n).attempt = n + 1 := by
  induction n with
  | zero => rfl
  | succ n ih => simp [nth, again, ih]

/-- **The delay after an attempt is the policy's delay of that number.** -/
theorem delay_eq (policy : Backoff) (n : Nat) : (nth policy n).delay = policy.delay n := by
  induction n with
  | zero => rfl
  | succ n ih => simp [nth, again, Backoff.delay, ih]

end Retry

end Relaunch
