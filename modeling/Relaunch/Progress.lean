/-!
# Progress — how much of a recovery cycle is done, and waiting for all of it

A cycle first forgets its predecessor (`reset`), then records how many claims it found
(`discover`), and then counts each one that came to its end (`resume`).  It is caught up once its
number is recorded and reached.

`Latch` adds observers who wait for that.  An observer asks for a notice, then looks, and sleeps
only if it is not caught up; every operation that can complete the cycle sends a notice to all who
asked before.  `Latch.step` is one step of one of them.
-/

namespace Relaunch

/-- **Counts of the current cycle**; `isOpen` says whether its number of claims is recorded. -/
structure Progress where
  discovered : Nat := 0
  resumed : Nat := 0
  isOpen : Bool := false
deriving DecidableEq, Repr, Inhabited

namespace Progress

/-- The start of a cycle. -/
def reset (_ : Progress) : Progress := {}

/-- The number of claims of the cycle. -/
def discover (p : Progress) (count : Nat) : Progress :=
  { p with discovered := count, isOpen := true }

/-- One more claim at its end. -/
def resume (p : Progress) : Progress := { p with resumed := p.resumed + 1 }

/-- **The cycle's number is recorded and reached.** -/
def isCaughtUp (p : Progress) : Bool := p.isOpen && decide (p.discovered ≤ p.resumed)

end Progress

/-! ## Waiting -/

/-- Where an observer stands; an epoch is the number of notices sent when it asked for one. -/
inductive Waiter where
  | start
  | armed (epoch : Nat)
  | parked (epoch : Nat)
  | done
deriving DecidableEq, Repr

/-- A cycle's counts, the number of notices sent, and the observers. -/
structure Latch where
  progress : Progress := {}
  epoch : Nat := 0
  waiters : List Waiter := []
deriving DecidableEq, Repr, Inhabited

namespace Latch

/-- What can happen to a latch. -/
inductive Move where
  | reset
  | discover (count : Nat)
  | resume
  /-- A new observer. -/
  | join
  /-- One step of the observer of that number. -/
  | waiter (i : Nat)
deriving DecidableEq, Repr

/-- One step of an observer: it asks for a notice; it looks; it wakes if a notice was sent since it
asked.  `none` if it sleeps on or is done. -/
def advance (l : Latch) : Waiter → Option Waiter
  | .start => some (.armed l.epoch)
  | .armed epoch => some (if l.progress.isCaughtUp then .done else .parked epoch)
  | .parked epoch => if epoch < l.epoch then some .start else none
  | .done => none

/-- **One step of a latch**; `none` if it cannot be taken. -/
def step : Move → Latch → Option Latch
  | .reset, l => some { l with progress := l.progress.reset }
  | .discover count, l =>
    some { l with progress := l.progress.discover count, epoch := l.epoch + 1 }
  | .resume, l => some { l with progress := l.progress.resume, epoch := l.epoch + 1 }
  | .join, l => some { l with waiters := l.waiters ++ [.start] }
  | .waiter i, l => do
    let waiter ← l.waiters[i]?
    let waiter ← l.advance waiter
    some { l with waiters := l.waiters.set i waiter }

/-- An observer's steps, as far as it gets while nothing else happens; four are enough. -/
def restWaiter (l : Latch) : Nat → Waiter → Waiter
  | 0, w => w
  | n + 1, w =>
    match l.advance w with
    | some w => restWaiter l n w
    | none => w

/-- **All observers as far as they get** while nothing else happens. -/
def rest (l : Latch) : Latch := { l with waiters := l.waiters.map (l.restWaiter 4) }

end Latch

end Relaunch
