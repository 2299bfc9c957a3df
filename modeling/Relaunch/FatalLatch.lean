import Relaunch.Event

/-!
# FatalLatch — the first failure that cannot be lived with

A latch holds the first such failure and cancels the token it was given; failures that come later
are handed back as they are.  What the first caller gets back, and what the latch holds, is the
failure with its message set before its whole chain (`Failure.captured`).
-/

namespace Relaunch

/-- **The failure that was captured**, if one was, and whether the token is cancelled. -/
structure FatalLatch where
  failure : Option Failure := none
  cancelled : Bool := false
deriving DecidableEq, Repr, Inhabited

namespace FatalLatch

/-- The log line of a failure that is captured. -/
def event (context : String) (f : Failure) : Event :=
  match f.query? with
  | some query => .fatalQuery context query f
  | none => .fatalFailure context f

/-- What a call to a latch gives: the latch after it, the failure handed back, and what is
logged. -/
structure Triggered where
  latch : FatalLatch
  returned : Failure
  events : List Event
deriving DecidableEq

/-- **Captures a failure**, or hands it back if one was captured before. -/
def trigger (l : FatalLatch) (context : String) (f : Failure) : Triggered :=
  match l.failure with
  | some _ => ⟨l, f, []⟩
  | none => ⟨⟨some (.captured f), true⟩, .captured f, [event context f]⟩

def isTriggered (l : FatalLatch) : Bool := l.failure.isSome

/-- The token is cancelled by someone else. -/
def cancel (l : FatalLatch) : FatalLatch := { l with cancelled := true }

end FatalLatch

end Relaunch
