import Relaunch.FatalLatch

/-!
# Capture — callers of one latch side by side

A latch and its clones are one flag, one slot and one token, and any number of callers may hand
them a failure at a time.  Whoever finds the flag down raises it, and then logs the failure, puts it
into the slot and cancels the token; whoever finds it up gets its own failure back.

The state is a value (`Capture`), and `Capture.step` takes one step: a caller comes, a caller takes
its next step, or the token is cancelled by someone else.  Nothing is said about the order of steps.

A caller that has the latch to itself does what `FatalLatch.trigger` does.
-/

namespace Relaunch

/-- **Where a caller stands.** -/
inductive Caller.Phase where
  | called
  /-- It found the flag down and raised it. -/
  | raised
  | logged
  /-- Its failure has been put into the slot. -/
  | stored
  /-- It has captured its failure. -/
  | captured
  /-- It found the flag up, and has its failure back. -/
  | handedBack
deriving DecidableEq, Repr

/-- Someone with a failure for the latch. -/
structure Caller where
  context : String
  failure : Failure
  phase : Caller.Phase := .called
deriving DecidableEq, Repr

/-- What a caller got from the latch, if it is done. -/
def Caller.returned? (x : Caller) : Option Failure :=
  match x.phase with
  | .captured => some (.captured x.failure)
  | .handedBack => some x.failure
  | .called | .raised | .logged | .stored => none

/-- **A latch with its callers**: the flag, the slot and the token, and what has been logged. -/
structure Capture where
  flag : Bool := false
  slot : Option Failure := none
  cancelled : Bool := false
  callers : List Caller := []
  log : List Event := []
deriving DecidableEq

namespace Capture

/-- What can happen to a latch. -/
inductive Move where
  /-- A failure is brought. -/
  | call (context : String) (failure : Failure)
  /-- One step of the caller of that number. -/
  | caller (i : Nat)
  /-- The token is cancelled by someone else. -/
  | cancel

def setPhase (c : Capture) (i : Nat) (x : Caller) (phase : Caller.Phase) : Capture :=
  { c with callers := c.callers.set i { x with phase } }

/-- One step of a caller.  A slot that is full is left as it is. -/
def stepCaller (c : Capture) (i : Nat) (x : Caller) : Option Capture :=
  match x.phase with
  | .called =>
    some (if c.flag then c.setPhase i x .handedBack
      else { c.setPhase i x .raised with flag := true })
  | .raised =>
    some { c.setPhase i x .logged with log := c.log ++ [FatalLatch.event x.context x.failure] }
  | .logged => some { c.setPhase i x .stored with slot := c.slot <|> some (.captured x.failure) }
  | .stored => some { c.setPhase i x .captured with cancelled := true }
  | .captured | .handedBack => none

/-- **One step of a latch**; `none` if it cannot be taken. -/
def step (c : Capture) : Move → Option Capture
  | .call context failure => some { c with callers := c.callers ++ [{ context, failure }] }
  | .caller i => c.callers[i]?.bind (c.stepCaller i)
  | .cancel => some { c with cancelled := true }

/-- The latch after some steps; `none` if one of them cannot be taken. -/
def steps (c : Capture) (moves : List Move) : Option Capture := moves.foldlM step c

/-- What is seen of a latch from outside: the failure in the slot, and the token. -/
def latch (c : Capture) : FatalLatch := ⟨c.slot, c.cancelled⟩

end Capture

end Relaunch
